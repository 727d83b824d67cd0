/-! Documents: what the text formats of route files have in common. A format decides what its
scalars mean; the shape of a document is checked without regard to the format. -/

namespace UrlRouting

inductive Scalar where
  | null
  | bool (b : Bool)
  | int (i : Int64)
  | text (s : String)
  /-- A value that no parameter can have, such as a fraction. -/
  | foreign
  /-- A scalar marked as null that does not spell it; it is neither a value nor the lack of one. -/
  | falseNull
deriving DecidableEq, Repr, Inhabited

inductive Document where
  /-- A scalar, with the text it stands for where a text is expected, if it may stand there. A
  `hollow` one also counts as a list or table without entries. -/
  | scalar (text : Option String) (value : Scalar) (hollow : Bool)
  | list (items : List Document)
  | table (entries : List (String × Document))
deriving Repr, Inhabited

namespace Document

def ofText (s : String) : Document := scalar (some s) (.text s) false

def ofScalar (v : Scalar) : Document := scalar none v false

/-- An integer, foreign if it does not fit into 64 bits with its sign. -/
def intScalar (i : Int) : Scalar :=
  if -0x8000000000000000 ≤ i ∧ i < 0x8000000000000000 then .int (Int64.ofInt i) else .foreign

def text? : Document → Option String
  | scalar text _ _ => text
  | _ => none

/-- The text of a scalar that may also be null: the outer option is none for a document that is
neither. -/
def optionalText? : Document → Option (Option String)
  | scalar _ .null _ => some none
  | scalar _ .falseNull _ => none
  | d => d.text?.map some

def items? : Document → Option (List Document)
  | list items => some items
  | scalar _ _ true => some []
  | _ => none

def entries? : Document → Option (List (String × Document))
  | table entries => some entries
  | scalar _ _ true => some []
  | _ => none

end Document

/-- How a format writes a record with named fields. A table will always do. -/
inductive RecordForm where
  | named
  /-- A list of the fields in order will do, which may be too short but not too long. -/
  | positional
  /-- A list of the fields in order will do, whatever follows them. -/
  | positionalPrefix
deriving DecidableEq, Repr

namespace RecordForm

/-- The value under each field name, none if it is missing. A field may be given only once, and
no other name may occur. -/
def fields? (form : RecordForm) (names : List String) (d : Document) :
    Option (List (Option Document)) :=
  match d with
  | .list items =>
    let given := (items.map some ++ List.replicate names.length none).take names.length
    match form with
    | named => none
    | positional => if items.length ≤ names.length then some given else none
    | positionalPrefix => some given
  | d => do
    let entries ← d.entries?
    if (entries.all fun e => names.contains e.1) ∧ (entries.map (·.1)).Nodup then
      some (names.map fun name => entries.lookup name)
    else none

end RecordForm

end UrlRouting
