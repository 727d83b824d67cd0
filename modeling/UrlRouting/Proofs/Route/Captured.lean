import UrlRouting.Proofs.Route.RoundTrip

/-! What is found in the values of a captured path. A parameter has the text that its slot takes in some
way to cover the path, without the slashes at its ends, or else its default. -/

namespace UrlRouting
open Slash Percent

namespace Part

variable {parts : List Part} {texts : List (List Char)} {kind : SlotKind} {name : String}

theorem keys_taken (parts : List Part) (texts : List (List Char)) :
    ((taken parts texts).map (·.1)).Sublist (parts.filterMap name?) := by
  induction parts generalizing texts with
  | nil => cases texts <;> exact List.Sublist.refl _
  | cons p parts ih =>
    cases texts with
    | nil => cases p <;> exact List.nil_sublist _
    | cons x texts =>
      cases p with
      | literal text => exact ih texts
      | slot kind name => exact (ih texts).cons_cons name

theorem exists_taken (fits : List.Forall₂ Fits parts texts) (member : .slot kind name ∈ parts) :
    ∃ x, (name, x) ∈ taken parts texts ∧ Fits (.slot kind name) x := by
  induction fits with
  | nil => cases member
  | @cons p x parts texts first _ ih =>
    rcases List.mem_cons.1 member with rfl | later
    · exact ⟨x, List.mem_cons_self, first⟩
    · obtain ⟨y, inside, fits⟩ := ih later
      cases p with
      | literal text => exact ⟨y, inside, fits⟩
      | slot _ _ => exact ⟨y, List.mem_cons_of_mem _ inside, fits⟩

end Part

namespace Segment

variable {segments : List Segment} {texts : List (List (List Char))} {kind : SlotKind} {name : String}

theorem keys_taken (segments : List Segment) (texts : List (List (List Char))) :
    ((taken segments texts).map (·.1)).Sublist (Pattern.names (segments.take texts.length)) := by
  induction segments generalizing texts with
  | nil => exact List.nil_sublist _
  | cons s segments ih =>
    cases texts with
    | nil => exact List.nil_sublist _
    | cons t texts =>
      have split : taken (s :: segments) (t :: texts) = Part.taken s.parts t ++ taken segments texts := rfl
      rw [split, List.map_append]
      exact (Part.keys_taken s.parts t).append (ih texts)

theorem names_take_sublist (segments : List Segment) (k : Nat) :
    (Pattern.names (segments.take k)).Sublist (Pattern.names segments) := by
  conv_rhs => rw [← List.take_append_drop k segments, Pattern.names, List.flatMap_append]
  exact List.sublist_append_left _ _

theorem exists_taken (fits : List.Forall₂ Fits (segments.take texts.length) texts) {s : Segment}
    (member : s ∈ segments.take texts.length) (slot : .slot kind name ∈ s.parts) :
    ∃ x, (name, x) ∈ taken segments texts ∧ Part.Fits (.slot kind name) x := by
  induction texts generalizing segments with
  | nil => cases member
  | cons t texts ih =>
    cases segments with
    | nil => cases member
    | cons first segments =>
      rw [List.length_cons, List.take_succ_cons] at fits member
      obtain _ | ⟨here, later⟩ := fits
      have split : taken (first :: segments) (t :: texts) =
        Part.taken first.parts t ++ taken segments texts := rfl
      rw [split]
      rcases List.mem_cons.1 member with rfl | member
      · obtain ⟨x, inside, fits⟩ := Part.exists_taken here slot
        exact ⟨x, List.mem_append_left _ inside, fits⟩
      · obtain ⟨x, inside, fits⟩ := ih later member
        exact ⟨x, List.mem_append_right _ inside, fits⟩

end Segment

namespace Route

variable {d : Declaration} {r : Route} {path : List Char} {found : ParameterSet}

theorem mem_required {name : String} :
    name ∈ r.required ↔ name ∈ r.params ∧ r.defaults.contains name = false := by
  rw [required, NameMap.mem_names_ofList, List.map_map]
  simp

theorem exists_slot_of_mem_params {name : String} (own : name ∈ r.params) :
    ∃ kind, (kind, name) ∈ Matcher.slots r.segments ∧ ∃ s ∈ r.segments, .slot kind name ∈ s.parts := by
  rw [params, Matcher.names_eq_slots] at own
  obtain ⟨⟨kind, _⟩, slot, rfl⟩ := List.mem_map.1 own
  obtain ⟨s, inside, part⟩ := List.mem_flatMap.1 slot
  obtain ⟨p, among, same⟩ := List.mem_filterMap.1 part
  cases p with
  | literal text => cases same
  | slot _ _ =>
    cases same
    exact ⟨_, slot, s, inside, among⟩

/-- Some way to cover the path gives all that is captured. -/
theorem Compiled.get?_capture (compiled : Compiled d r) (unvalidated : r.Unvalidated)
    (captured : r.capture path = some found) :
    ∃ texts, Segment.Covers r.segments r.tailStart texts path ∧ ∀ name, found.get? name =
      if name ∈ r.params then
        (captured? (Segment.taken r.segments texts).reverse name).or (r.defaults.get? name)
      else r.defaults.get? name := by
  obtain ⟨captures, matched, rfl⟩ := Option.map_eq_some_iff.1 captured
  obtain ⟨texts, covers, rfl⟩ := compiled.covers_of_search unvalidated matched
  refine ⟨texts, covers, fun name => ?_⟩
  rw [addCapture_eq, NameMap.get?_foldl_insert]

theorem Compiled.nodup_taken (compiled : Compiled d r) (texts : List (List (List Char))) :
    ((Segment.taken r.segments texts).map (·.1)).Nodup := by
  have names := Pattern.nodup_of_read compiled.segments_read
  have sublist := (Segment.keys_taken r.segments texts).trans (Segment.names_take_sublist r.segments _)
  exact sublist.nodup names

/-- A slot that takes a text captures what is left of it without slashes at its ends. -/
theorem Compiled.captured?_eq (compiled : Compiled d r) {texts : List (List (List Char))} {name : String}
    {x : List Char} (taken : (name, x) ∈ Segment.taken r.segments texts) :
    captured? (Segment.taken r.segments texts).reverse name =
      if trim x = [] then none else some (.text (String.ofList (restore (trim x)))) := by
  have keys := compiled.nodup_taken texts
  have reversed : ((Segment.taken r.segments texts).reverse.map (·.1)).Nodup := by
    rw [List.map_reverse]
    exact List.nodup_reverse.2 keys
  rw [captured?, lookup_of_mem reversed (List.mem_reverse.2 taken), Option.bind_some]

theorem notMem_tail {s : Segment} {kind : SlotKind} {name : String} (slot : .slot kind name ∈ s.parts)
    (undefaulted : r.defaults.contains name = false) : s ∉ r.segments.drop r.tailStart := by
  intro member
  obtain ⟨other, sole, optional⟩ := (isLeast_tailStart r).1 s member
  obtain rfl : name = other := by
    unfold Segment.sole? at sole
    split at sole
    next parts =>
      rw [parts, List.mem_singleton] at slot
      cases slot
      exact Option.some.inj sole
    next => cases sole
  rw [undefaulted] at optional
  cases optional

theorem mem_take_of_undefaulted {s : Segment} {kind : SlotKind} {name : String} {k : Nat}
    (enough : r.tailStart ≤ k) (member : s ∈ r.segments) (slot : .slot kind name ∈ s.parts)
    (undefaulted : r.defaults.contains name = false) : s ∈ r.segments.take k := by
  rw [← List.take_append_drop k r.segments] at member
  rcases List.mem_append.1 member with front | back
  · exact front
  · obtain ⟨n, rfl⟩ := Nat.exists_eq_add_of_le enough
    rw [← List.drop_drop] at back
    exact absurd (List.mem_of_mem_drop back) (notMem_tail slot undefaulted)

end Route

end UrlRouting
