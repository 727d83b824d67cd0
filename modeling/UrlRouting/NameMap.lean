/-! Finite maps from names, kept in the order of the names. The order makes the entries of a map
determine it and be determined by it. -/

namespace UrlRouting

def insertEntry {α : Type} (name : String) (value : α) :
    List (String × α) → List (String × α)
  | [] => [(name, value)]
  | e :: rest =>
    if name < e.1 then (name, value) :: e :: rest
    else if name = e.1 then (name, value) :: rest
    else e :: insertEntry name value rest

theorem mem_insertEntry {α : Type} {name : String} {value : α} {e : String × α}
    {entries : List (String × α)} (member : e ∈ insertEntry name value entries) :
    e = (name, value) ∨ e ∈ entries := by
  induction entries with
  | nil => simpa [insertEntry] using member
  | cons head rest ih =>
    unfold insertEntry at member
    split at member
    · simpa using member
    · split at member
      · rcases List.mem_cons.1 member with same | later
        · exact .inl same
        · exact .inr (List.mem_cons_of_mem _ later)
      · rcases List.mem_cons.1 member with same | later
        · exact .inr (same ▸ List.mem_cons_self)
        · exact (ih later).imp_right (List.mem_cons_of_mem _)

theorem pairwise_insertEntry {α : Type} (name : String) (value : α)
    {entries : List (String × α)} (sorted : entries.Pairwise fun a b => a.1 < b.1) :
    (insertEntry name value entries).Pairwise fun a b => a.1 < b.1 := by
  induction entries with
  | nil => simp [insertEntry]
  | cons head rest ih =>
    obtain ⟨first, later⟩ := List.pairwise_cons.1 sorted
    unfold insertEntry
    split
    next below =>
      refine List.pairwise_cons.2 ⟨fun e member => ?_, sorted⟩
      rcases List.mem_cons.1 member with same | member
      · exact same ▸ below
      · exact String.lt_trans below (first e member)
    next notBelow =>
      split
      next same =>
        exact List.pairwise_cons.2 ⟨fun e member => same ▸ first e member, later⟩
      next different =>
        refine List.pairwise_cons.2 ⟨fun e member => ?_, ih later⟩
        rcases mem_insertEntry member with same | member
        · subst same
          rcases String.le_total head.1 name with le | le
          · exact Decidable.byContradiction fun notLess =>
              different (String.le_antisymm (String.not_lt.1 notLess) le)
          · exact absurd (String.le_antisymm (String.not_lt.1 notBelow) le).symm different
        · exact first e member

structure NameMap (α : Type) where
  entries : List (String × α)
  sorted : entries.Pairwise fun a b => a.1 < b.1

namespace NameMap

variable {α β : Type}

instance [DecidableEq α] : DecidableEq (NameMap α) := fun a b =>
  decidable_of_iff (a.entries = b.entries) ⟨fun h => by cases a; cases b; cases h; rfl,
    fun h => h ▸ rfl⟩

def empty : NameMap α := ⟨[], .nil⟩

instance : Inhabited (NameMap α) := ⟨empty⟩

def insert (m : NameMap α) (name : String) (value : α) : NameMap α :=
  ⟨insertEntry name value m.entries, pairwise_insertEntry name value m.sorted⟩

def get? (m : NameMap α) (name : String) : Option α := m.entries.lookup name

def contains (m : NameMap α) (name : String) : Bool := (m.get? name).isSome

def names (m : NameMap α) : List String := m.entries.map (·.1)

def size (m : NameMap α) : Nat := m.entries.length

def isEmpty (m : NameMap α) : Bool := m.entries.isEmpty

/-- The map of a list of entries, of which a later one for the same name counts. -/
def ofList (entries : List (String × α)) : NameMap α :=
  entries.foldl (fun m e => m.insert e.1 e.2) empty

end NameMap

end UrlRouting
