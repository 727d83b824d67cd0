import Mathlib.Data.List.Perm.Basic
import Mathlib.Data.List.Nodup
import UrlRouting.NameMap

/-! Looking up names in maps that are built up by insertion. A map is determined by what is found
in it. -/

namespace UrlRouting

variable {α : Type}

theorem lookup_cons_eq (e : String × α) (rest : List (String × α)) (other : String) :
    (e :: rest).lookup other = if other = e.1 then some e.2 else rest.lookup other := by
  by_cases same : other = e.1
  · rw [if_pos same, same]
    exact List.lookup_cons_self
  · rw [if_neg same, List.lookup_cons, beq_eq_false_iff_ne.2 same]

theorem lookup_insertEntry (name : String) (value : α) (entries : List (String × α)) (other : String) :
    (insertEntry name value entries).lookup other =
      if other = name then some value else entries.lookup other := by
  induction entries with
  | nil => rw [insertEntry, lookup_cons_eq]
  | cons e rest ih =>
    unfold insertEntry
    split
    next => rw [lookup_cons_eq]
    next =>
      split
      next here => rw [lookup_cons_eq, lookup_cons_eq, here]; split <;> rfl
      next different =>
        rw [lookup_cons_eq, ih, lookup_cons_eq]
        by_cases first : other = e.1
        · simp [first, Ne.symm different]
        · simp [first]

theorem mem_of_lookup {entries : List (String × α)} {name : String} {value : α}
    (found : entries.lookup name = some value) : (name, value) ∈ entries := by
  obtain ⟨before, after, split, _⟩ := List.lookup_eq_some_iff.1 found
  rw [split]
  exact List.mem_append_right _ List.mem_cons_self

theorem lookup_of_mem {entries : List (String × α)} (nodup : (entries.map (·.1)).Nodup) {name : String}
    {value : α} (member : (name, value) ∈ entries) : entries.lookup name = some value := by
  induction entries with
  | nil => cases member
  | cons e rest ih =>
    rw [List.map_cons, List.nodup_cons] at nodup
    rw [lookup_cons_eq]
    rcases List.mem_cons.1 member with rfl | later
    · rw [if_pos rfl]
    · have other : name ≠ e.1 := fun same => nodup.1 (same ▸ List.mem_map.2 ⟨_, later, rfl⟩)
      rw [if_neg other, ih nodup.2 later]

theorem lookup_of_notMem {entries : List (String × α)} {name : String}
    (absent : name ∉ entries.map (·.1)) : entries.lookup name = none :=
  List.lookup_eq_none_iff.2 fun e member =>
    bne_iff_ne.2 fun same => absent (same ▸ List.mem_map.2 ⟨e, member, rfl⟩)

namespace NameMap

theorem pairwise_names (m : NameMap α) : m.names.Pairwise (· < ·) := List.pairwise_map.2 m.sorted

theorem length_names (m : NameMap α) : m.names.length = m.size := List.length_map ..

theorem nodup_names (m : NameMap α) : m.names.Nodup := by
  refine m.pairwise_names.imp fun {name other} before same => ?_
  rw [same] at before
  exact String.lt_irrefl _ before

theorem names_eq_of_mem_iff {a b : NameMap α} (same : ∀ name, name ∈ a.names ↔ name ∈ b.names) :
    a.names = b.names := by
  have perm := (List.perm_ext_iff_of_nodup a.nodup_names b.nodup_names).2 same
  refine perm.eq_of_pairwise (fun name other _ _ before after => ?_) a.pairwise_names b.pairwise_names
  exact absurd (String.lt_trans before after) (String.lt_irrefl _)

theorem get?_eq_some_iff {m : NameMap α} {name : String} {value : α} :
    m.get? name = some value ↔ (name, value) ∈ m.entries := ⟨mem_of_lookup, lookup_of_mem m.nodup_names⟩

theorem contains_iff {m : NameMap α} {name : String} : m.contains name = true ↔ name ∈ m.names := by
  rw [contains, Option.isSome_iff_exists, names, List.mem_map]
  constructor
  · intro given
    obtain ⟨value, found⟩ := given
    exact ⟨(name, value), get?_eq_some_iff.1 found, rfl⟩
  · intro given
    obtain ⟨⟨_, value⟩, member, rfl⟩ := given
    exact ⟨value, get?_eq_some_iff.2 member⟩

theorem eq_of_get? {a b : NameMap α} (same : ∀ name, a.get? name = b.get? name) : a = b := by
  have members : ∀ e, e ∈ a.entries ↔ e ∈ b.entries := by
    intro e
    rw [← get?_eq_some_iff (m := a), ← get?_eq_some_iff (m := b), same]
  have nodup (m : NameMap α) : m.entries.Nodup := m.nodup_names.of_map _
  have entries : a.entries = b.entries := by
    refine ((List.perm_ext_iff_of_nodup (nodup a) (nodup b)).2 members).eq_of_pairwise ?_ a.sorted b.sorted
    intro e f _ _ before after
    exact absurd (String.lt_trans before after) (String.lt_irrefl _)
  obtain ⟨_, _⟩ := a
  obtain ⟨_, _⟩ := b
  cases entries
  rfl

@[simp] theorem get?_insert (m : NameMap α) (name : String) (value : α) (other : String) :
    (m.insert name value).get? other = if other = name then some value else m.get? other :=
  lookup_insertEntry name value m.entries other

theorem mem_names_ofList {entries : List (String × α)} {name : String} :
    name ∈ (ofList entries).names ↔ name ∈ entries.map (·.1) := by
  have onto (m : NameMap α) : name ∈ (entries.foldl (fun m e => m.insert e.1 e.2) m).names ↔
      name ∈ entries.map (·.1) ∨ name ∈ m.names := by
    induction entries generalizing m with
    | nil => simp
    | cons e rest ih =>
      rw [List.foldl_cons, ih, ← contains_iff, contains, get?_insert]
      by_cases here : name = e.1
      · simp [here]
      · simp [here, ← contains_iff, contains]
  rw [ofList, onto]
  exact or_iff_left List.not_mem_nil

theorem get?_foldl_insertEntries {entries : List (String × α)} (nodup : (entries.map (·.1)).Nodup)
    (m : NameMap α) (name : String) :
    (entries.foldl (fun m e => m.insert e.1 e.2) m).get? name = (entries.lookup name).or (m.get? name) := by
  induction entries generalizing m with
  | nil => rfl
  | cons e rest ih =>
    obtain ⟨fresh, nodup⟩ := List.nodup_cons.1 nodup
    rw [List.foldl_cons, ih nodup, get?_insert, lookup_cons_eq]
    by_cases here : name = e.1
    · rw [if_pos here, if_pos here, here, lookup_of_notMem fresh]
      rfl
    · rw [if_neg here, if_neg here]

theorem ofList_entries (m : NameMap α) : ofList m.entries = m := by
  refine eq_of_get? fun name => ?_
  rw [ofList, get?_foldl_insertEntries m.nodup_names]
  exact Option.or_none

theorem size_le_of_subset {a : NameMap α} {names : List String} (within : a.names ⊆ names) :
    a.size ≤ names.length := by
  have count := (List.subperm_of_subset a.nodup_names within).length_le
  rwa [length_names] at count

theorem get?_foldl_insert (f : String → Option α) (names : List String) (m : NameMap α) (other : String) :
    (names.foldl (fun m name => (f name).elim m (m.insert name)) m).get? other =
      if other ∈ names then (f other).or (m.get? other) else m.get? other := by
  induction names generalizing m with
  | nil => rfl
  | cons name names ih =>
    rw [List.foldl_cons, ih]
    by_cases here : other = name
    · subst here
      cases f other <;> simp
    · cases f name <;> simp [here]

end NameMap

end UrlRouting
