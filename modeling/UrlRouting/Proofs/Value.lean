import Mathlib.Data.List.Forall2
import UrlRouting.Proofs.NameMap
import UrlRouting.Value

/-! Sets of parameters that cannot be told apart: the same names with equivalent values. An integer and
its digits are equivalent, and so are all ways to have no value, so what depends on the texts of the
values alone is the same for both. -/

namespace UrlRouting

theorem ParamValue.equivalent_iff {v w : ParamValue} : v.equivalent w = true ↔ v.text? = w.text? :=
  beq_iff_eq

theorem ParamValue.isAbsent_iff {v : ParamValue} : v.isAbsent = true ↔ v.text? = none := by
  cases v with
  | text s =>
    simp only [isAbsent, text?, beq_iff_eq]
    split <;> simp_all
  | int i => simp [isAbsent, text?]
  | absent => simp [isAbsent, text?]

namespace ParameterSet

/-- The same names, with values that are equivalent. -/
structure Alike (p q : ParameterSet) : Prop where
  names_eq : p.names = q.names
  equivalent : ∀ name v w, p.get? name = some v → q.get? name = some w → v.equivalent w = true

variable {p q : ParameterSet}

theorem alike_iff_forall₂ : p.Alike q ↔
    List.Forall₂ (fun e f => e.1 = f.1 ∧ e.2.text? = f.2.text?) p.entries q.entries := by
  constructor
  · intro alike
    have lengths : p.entries.length = q.entries.length := by
      simpa [NameMap.names] using congrArg List.length alike.names_eq
    refine List.forall₂_iff_get.2 ⟨lengths, fun i here there => ?_⟩
    have name : p.entries[i].1 = q.entries[i].1 := by
      have same : p.names[i]? = q.names[i]? := by rw [alike.names_eq]
      simpa [NameMap.names, here, there] using same
    have first : p.get? p.entries[i].1 = some p.entries[i].2 :=
      NameMap.get?_eq_some_iff.2 (List.getElem_mem here)
    have second : q.get? p.entries[i].1 = some q.entries[i].2 := by
      rw [name]
      exact NameMap.get?_eq_some_iff.2 (List.getElem_mem there)
    exact ⟨name, ParamValue.equivalent_iff.1 (alike.equivalent _ _ _ first second)⟩
  · intro agree
    constructor
    · have mapped := List.forall₂_map_left_iff.2 (List.forall₂_map_right_iff.2 (agree.imp fun _ _ both => both.1))
      exact List.forall₂_eq_eq_eq ▸ mapped
    · intro name v w here there
      rw [ParamValue.equivalent_iff]
      rw [NameMap.get?] at here there
      obtain ⟨entries, _⟩ := p
      obtain ⟨others, _⟩ := q
      simp only at agree here there
      clear * - agree here there
      induction agree with
      | nil => cases here
      | @cons e f _ _ first _ ih =>
        rw [lookup_cons_eq] at here there
        rw [first.1] at here
        by_cases found : name = f.1
        · rw [if_pos found] at here there
          cases here
          cases there
          exact first.2
        · rw [if_neg found] at here there
          exact ih here there

namespace Alike

theorem refl (p : ParameterSet) : p.Alike p :=
  ⟨rfl, fun _ v w here there => by cases here.symm.trans there; exact ParamValue.equivalent_iff.2 rfl⟩

theorem contains_eq (alike : p.Alike q) (name : String) : p.contains name = q.contains name := by
  rw [Bool.eq_iff_iff, NameMap.contains_iff, NameMap.contains_iff, alike.names_eq]

theorem size_eq (alike : p.Alike q) : p.size = q.size := (alike_iff_forall₂.1 alike).length_eq

theorem isEmpty_eq (alike : p.Alike q) : p.isEmpty = q.isEmpty := by
  have lengths := (alike_iff_forall₂.1 alike).length_eq
  rw [NameMap.isEmpty, NameMap.isEmpty, Bool.eq_iff_iff, List.isEmpty_iff, List.isEmpty_iff,
    ← List.length_eq_zero_iff, lengths, List.length_eq_zero_iff]

theorem get?_eq (alike : p.Alike q) (name : String) :
    (p.get? name).map ParamValue.text? = (q.get? name).map ParamValue.text? := by
  have both := alike.contains_eq name
  rw [NameMap.contains, NameMap.contains] at both
  cases here : p.get? name with
  | none =>
    rw [here] at both
    rw [Option.isNone_iff_eq_none.1 (Option.isSome_eq_false_iff.1 both.symm)]
  | some v =>
    rw [here] at both
    obtain ⟨w, there⟩ := Option.isSome_iff_exists.1 both.symm
    rw [there, Option.map_some, Option.map_some,
      ParamValue.equivalent_iff.1 (alike.equivalent name v w here there)]

theorem text?_eq (alike : p.Alike q) (name : String) : p.text? name = q.text? name := by
  have same := congrArg (·.bind id) (alike.get?_eq name)
  simp only [Option.bind_map] at same
  exact same

theorem insert (alike : p.Alike q) (name : String) (value : ParamValue) :
    ParameterSet.Alike (p.insert name value) (q.insert name value) := by
  rw [alike_iff_forall₂] at alike ⊢
  rw [NameMap.insert, NameMap.insert]
  obtain ⟨entries, _⟩ := p
  obtain ⟨others, _⟩ := q
  simp only at alike ⊢
  clear * - alike
  induction alike with
  | nil => exact .cons ⟨rfl, rfl⟩ .nil
  | @cons e f _ _ first rest ih =>
    unfold insertEntry
    rw [first.1]
    split
    · exact .cons ⟨rfl, rfl⟩ (.cons first rest)
    · split
      · exact .cons ⟨rfl, rfl⟩ rest
      · exact .cons first ih

end Alike

end ParameterSet

end UrlRouting
