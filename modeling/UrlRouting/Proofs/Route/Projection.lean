import UrlRouting.Proofs.Route.Captured
import UrlRouting.Proofs.Route.Checks
import UrlRouting.Proofs.Value

/-! Captured values are values that a route renders. Where all slots are simple and without validators, the
values of a path that is captured are accepted, and the first slots, those that the path has texts for,
are rendered. -/

namespace UrlRouting
open Slash Percent

namespace Route

variable {d : Declaration} {r : Route} {path : List Char} {found : ParameterSet}

/-- The slots of the first segments have captured texts, and all else is as in the defaults. -/
structure Captures (r : Route) (found : ParameterSet) (k : Nat) : Prop where
  enough : r.tailStart ≤ k
  bounded : k ≤ r.segments.length
  texts : ∀ name ∈ Pattern.names (r.segments.take k), ∃ text, text ≠ "" ∧ found.get? name = some (.text text)
  others : ∀ name ∉ Pattern.names (r.segments.take k), found.get? name = r.defaults.get? name

theorem Compiled.exists_captures (compiled : Compiled d r) (unvalidated : r.Unvalidated)
    (simple : ∀ s ∈ Matcher.slots r.segments, s.1 = .simple) (captured : r.capture path = some found) :
    ∃ k, r.Captures found k := by
  obtain ⟨texts, covers, values⟩ := compiled.get?_capture unvalidated captured
  refine ⟨texts.length, covers.enough, ?_, fun name member => ?_, fun name missing => ?_⟩
  · have lengths := covers.fits.length_eq
    rw [List.length_take] at lengths
    omega
  · obtain ⟨s, inside, named⟩ := List.mem_flatMap.1 member
    obtain ⟨p, among, same⟩ := List.mem_filterMap.1 named
    cases p with
    | literal text => cases same
    | slot kind other =>
      obtain rfl : other = name := Option.some.inj same
      obtain rfl : kind = .simple := simple (kind, other)
        (List.mem_flatMap.2 ⟨s, List.mem_of_mem_take inside, List.mem_filterMap.2 ⟨_, among, rfl⟩⟩)
      obtain ⟨x, taken, present, slashless⟩ := Segment.exists_taken covers.fits inside among
      have own : other ∈ r.params := (Segment.names_take_sublist r.segments texts.length).subset member
      have value := values other
      rw [if_pos own, compiled.captured?_eq taken, trim_of_bare (bare_of_notMem slashless),
        if_neg present] at value
      exact ⟨_, by simpa using restore_ne_nil present, value⟩
  · rw [values name, captured?, lookup_of_notMem]
    · split <;> rfl
    · rw [List.map_reverse, List.mem_reverse]
      exact fun member => missing ((Segment.keys_taken r.segments texts).subset member)

namespace Captures

variable {k : Nat} {name : String}

theorem mem_params (name_mem : name ∈ Pattern.names (r.segments.take k)) : name ∈ r.params :=
  (Segment.names_take_sublist r.segments k).subset name_mem

theorem size_le (captures : r.Captures found k) : found.size ≤ r.maxKeys := by
  refine size_le_maxKeys fun name member => ?_
  by_cases own : name ∈ r.params
  · exact .inl own
  · rw [← NameMap.contains_iff, NameMap.contains, captures.others name fun inside => own (mem_params inside)]
      at member
    exact .inr member

theorem contains_required (captures : r.Captures found k) (required : name ∈ r.required) :
    found.contains name = true := by
  obtain ⟨own, undefaulted⟩ := mem_required.1 required
  obtain ⟨kind, _, s, inside, among⟩ := exists_slot_of_mem_params own
  have front := mem_take_of_undefaulted captures.enough inside among undefaulted
  have named : name ∈ Pattern.names (r.segments.take k) :=
    List.mem_flatMap.2 ⟨s, front, List.mem_filterMap.2 ⟨_, among, rfl⟩⟩
  obtain ⟨text, _, value⟩ := captures.texts name named
  rw [NameMap.contains, value]
  rfl

theorem accept (captures : r.Captures found k) (compiled : Compiled d r) (unvalidated : r.Unvalidated)
    (simple : ∀ s ∈ Matcher.slots r.segments, s.1 = .simple)
    (slashless : ∀ name ∈ r.params, ∀ text, found.text? name = some text → '/' ∉ text.toList) :
    r.accept found = some found := by
  refine accept_eq_some_iff.2 ⟨?_, captures.size_le, fun name => captures.contains_required⟩
  rintro ⟨name, v⟩ member
  have value : found.get? name = some v := NameMap.get?_eq_some_iff.2 member
  by_cases own : name ∈ r.params
  · apply compiled.admits_simple own simple unvalidated
    intro text shown
    exact slashless name own text (by rw [ParameterSet.text?, value]; exact shown)
  · have unchecked : r.matchers.checks.lookup name = none := by
      apply lookup_of_notMem
      rwa [Matcher.keys_checks compiled.matchers_built]
    rw [captures.others name fun inside => own (mem_params inside)] at value
    rw [admits, unchecked]
    simp only [value, Option.any_some]
    exact ParamValue.equivalent_iff.2 rfl

variable (absent : ∀ name ∈ r.params, r.defaults.text? name = none)
include absent

theorem resolve?_eq (own : name ∈ r.params) : r.resolve? found name = found.text? name := by
  unfold resolve?
  cases found.text? name with
  | some text => rfl
  | none => exact absent name own

theorem resolve?_of_mem (captures : r.Captures found k) (inside : name ∈ Pattern.names (r.segments.take k)) :
    ∃ text, r.resolve? found name = some text ∧ found.get? name = some (.text text) := by
  obtain ⟨text, present, value⟩ := captures.texts name inside
  refine ⟨text, ?_, value⟩
  rw [resolve?_eq absent (mem_params inside), ParameterSet.text?, value]
  exact if_neg present

theorem resolve?_of_notMem (captures : r.Captures found k) (own : name ∈ r.params)
    (missing : name ∉ Pattern.names (r.segments.take k)) : r.resolve? found name = none := by
  rw [resolve?_eq absent own, ParameterSet.text?, captures.others name missing]
  exact absent name own

theorem rendersFirst (captures : r.Captures found k) (compiled : Compiled d r)
    (simple : ∀ s ∈ Matcher.slots r.segments, s.1 = .simple) : r.RendersFirst found k := by
  have nodup := Pattern.nodup_of_read compiled.segments_read
  rw [← List.take_append_drop k r.segments, Pattern.names, List.flatMap_append] at nodup
  obtain ⟨_, _, apart⟩ := List.nodup_append.1 nodup
  refine ⟨captures.enough, captures.bounded, fun s inside name named => ?_, fun s inside name named => ?_,
    fun name text slot => ?_⟩
  · obtain ⟨text, resolved, _⟩ := captures.resolve?_of_mem absent (List.mem_flatMap.2 ⟨s, inside, named⟩)
    rw [resolved]
    rfl
  · have later : name ∈ Pattern.names (r.segments.drop k) := List.mem_flatMap.2 ⟨s, inside, named⟩
    have own : name ∈ r.params := List.mem_flatMap.2 ⟨s, List.mem_of_mem_drop inside, named⟩
    exact captures.resolve?_of_notMem absent own fun first => apart name first name later rfl
  · cases simple _ slot

/-- Rendering the values and capturing them again gives the same values. -/
theorem eq_of_recovers (captures : r.Captures found k) {again : ParameterSet}
    (recovers : r.Recovers found again) : again = found := by
  refine NameMap.eq_of_get? fun name => ?_
  rw [recovers name]
  by_cases own : name ∈ r.params
  · rw [if_pos own]
    by_cases inside : name ∈ Pattern.names (r.segments.take k)
    · obtain ⟨text, resolved, value⟩ := captures.resolve?_of_mem absent inside
      rw [resolved, value]
      rfl
    · rw [captures.resolve?_of_notMem absent own inside, captures.others name inside]
      rfl
  · rw [if_neg own, captures.others name fun inside => own (mem_params inside)]

end Captures

end Route

end UrlRouting
