import UrlRouting.Toml.Section

/-! TOML texts as documents. A name may be defined once. A table that is only implied, by a header
or a dotted key further in, may still be given more entries, though not by every means. -/

namespace UrlRouting.Toml

inductive Origin where
  | header
  /-- By a header of a table within it. -/
  | implied
  /-- By a dotted key. -/
  | dotted
  | inline
deriving DecidableEq, Repr, Inhabited

inductive Item where
  | document (d : Document)
  | table (origin : Origin) (entries : List (String × Item))
  /-- Tables that headers have added to a list. -/
  | tables (items : List (List (String × Item)))
deriving Repr, Inhabited

abbrev Entries := List (String × Item)

def put (name : String) (item : Item) : Entries → Entries
  | [] => [(name, item)]
  | e :: rest => if e.1 = name then (name, item) :: rest else e :: put name item rest

/-- Assigns to a dotted key in a table. The tables on the way must be implied ones, and the last of
them one that dotted keys have made, as `origin` tells of the table at hand. -/
def assign? (item : Item) (dotted : Bool) (origin : Origin) : List String → Entries → Option Entries
  | [], _ => none
  | [name], es =>
    if decide (origin = .dotted) != dotted || (es.lookup name).isSome then none
    else some (put name item es)
  | name :: path, es =>
    match es.lookup name with
    | none => (assign? item true .dotted path []).map fun inner => put name (.table .dotted inner) es
    | some (.table .implied inner) =>
      (assign? item true .implied path inner).map fun inner => put name (.table .implied inner) es
    | some (.table .dotted inner) =>
      (assign? item true .dotted path inner).map fun inner => put name (.table .dotted inner) es
    | some _ => none

def assignAll? (es : Entries) (assignments : List (List String × Item)) : Option Entries :=
  assignments.foldlM (fun es a => assign? a.2 false .header a.1 es) es

/-- Changes what stands under the dotted key of a header, implying the tables on the way to it. -/
def within? (change : Option Item → Option Item) : List String → Entries → Option Entries
  | [], _ => none
  | [name], es => (change (es.lookup name)).map fun item => put name item es
  | name :: path, es =>
    match es.lookup name with
    | none => (within? change path []).map fun inner => put name (.table .implied inner) es
    | some (.table origin inner) =>
      if origin = .inline then none
      else (within? change path inner).map fun inner => put name (.table origin inner) es
    | some (.tables items) =>
      match items.reverse with
      | last :: before =>
        (within? change path last).map fun inner => put name (.tables (before.reverse ++ [inner])) es
      | [] => none
    | some (.document _) => none

mutual

def Item.toDocument : Item → Document
  | .document d => d
  | .table _ entries => .table (entryDocuments entries)
  | .tables items => .list (tableDocuments items)

def entryDocuments : List (String × Item) → List (String × Document)
  | [] => []
  | (name, item) :: rest => (name, item.toDocument) :: entryDocuments rest

def tableDocuments : List (List (String × Item)) → List Document
  | [] => []
  | entries :: rest => .table (entryDocuments entries) :: tableDocuments rest

end

mutual

def Value.item? : Value → Option Item
  | .text s => some (.document (.ofText s))
  | .scalar v => some (.document (.ofScalar v))
  | .list items => (itemDocuments? items).map fun docs => .document (.list docs)
  | .inline assignments => do
    let assigned ← assignedItems? assignments
    (assignAll? [] assigned).map (.table .inline)

def itemDocuments? : List Value → Option (List Document)
  | [] => some []
  | v :: rest => do
    let item ← v.item?
    (itemDocuments? rest).map (item.toDocument :: ·)

def assignedItems? : List (List String × Value) → Option (List (List String × Item))
  | [] => some []
  | (key, v) :: rest => do
    let item ← v.item?
    (assignedItems? rest).map ((key, item) :: ·)

end

def Section.addTo? (s : Section) (root : Entries) : Option Entries := do
  let assigned ← assignedItems? s.assignments
  if s.path.isEmpty then assignAll? root assigned
  else
    within? (fun there =>
      match s.listed, there with
      | false, none => (assignAll? [] assigned).map (.table .header)
      | false, some (.table .implied inner) => (assignAll? inner assigned).map (.table .header)
      | true, none => (assignAll? [] assigned).map fun es => .tables [es]
      | true, some (.tables items) => (assignAll? [] assigned).map fun es => .tables (items ++ [es])
      | _, _ => none) s.path root

def read? (text : String) : Option Document := do
  let sections ← sections? text.toList
  let root ← sections.foldlM (fun root s => s.addTo? root) []
  some (.table (entryDocuments root))

end UrlRouting.Toml
