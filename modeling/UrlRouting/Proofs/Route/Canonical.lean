import UrlRouting.Proofs.Pattern.Read
import UrlRouting.Proofs.Route.Compile
import UrlRouting.Proofs.Route.Render

/-! Where slashes stand in rendered paths. A path begins with a slash, and of the texts of the parts only
those of wildcard slots hold any; so it begins with two slashes, or ends in one, just if a wildcard slot
puts it there. -/

namespace UrlRouting
open Slash Percent

namespace Percent

theorem head?_encodeValue {wildcard : Bool} {s : List Char} :
    (encodeValue wildcard s).head? = some '/' ↔ wildcard = true ∧ s.head? = some '/' := by
  rw [encodeValue_eq]
  cases s with
  | nil => exact iff_of_false nofun fun both => nomatch both.2
  | cons c s =>
    rw [List.flatMap_cons, List.head?_append_of_ne_nil _ (encodeAt_ne_nil wildcard c), List.head?_cons,
      Option.some.injEq]
    exact ⟨fun first => slash_mem_encodeAt (List.mem_of_head? first),
      fun both => by rw [both.1, both.2]; rfl⟩

theorem getLast?_encodeValue {wildcard : Bool} {s : List Char} :
    (encodeValue wildcard s).getLast? = some '/' ↔ wildcard = true ∧ s.getLast? = some '/' := by
  rw [encodeValue_eq]
  rcases List.eq_nil_or_concat s with rfl | ⟨s, c, rfl⟩
  · exact iff_of_false nofun fun both => nomatch both.2
  · rw [List.concat_eq_append, List.flatMap_append, List.flatMap_singleton,
      List.getLast?_append_of_ne_nil _ (encodeAt_ne_nil wildcard c), List.getLast?_concat,
      Option.some.injEq]
    exact ⟨fun last => slash_mem_encodeAt (List.mem_of_getLast? last),
      fun both => by rw [both.1, both.2]; rfl⟩

end Percent

theorem findSome?_eq_some_iff_find? {α β : Type} {f : α → Option β} {xs : List α} {b : β} :
    xs.findSome? f = some b ↔ ∃ a, xs.find? (fun a => (f a).isSome) = some a ∧ f a = some b := by
  induction xs with
  | nil => simp
  | cons x xs ih =>
    rw [List.findSome?_cons, List.find?_cons]
    cases here : f x with
    | some y => simp [here]
    | none => exact ih

namespace Route

variable {d : Declaration} {r : Route} {supplied : ParameterSet}

/-- The parts of all segments in order. -/
def parts (r : Route) : List Part := r.segments.flatMap (·.parts)

/-- Whether a part has text. -/
def rendersPart (r : Route) (supplied : ParameterSet) (p : Part) : Bool :=
  !(r.renderPart supplied p).isEmpty

def renderParts (r : Route) (supplied : ParameterSet) : List Char := r.parts.flatMap (r.renderPart supplied)

/-- The texts of the segments that have one. -/
def segmentTexts (r : Route) (supplied : ParameterSet) : List (List Char) :=
  (r.segments.map (r.renderSegment supplied)).filter (!·.isEmpty)

theorem flatten_segmentTexts (r : Route) (supplied : ParameterSet) :
    (r.segmentTexts supplied).flatten = r.renderParts supplied := by
  rw [segmentTexts, List.flatten_filter_not_isEmpty, ← List.flatMap_def, renderParts, parts,
    List.flatMap_assoc]
  rfl

theorem render_eq_path (r : Route) (supplied : ParameterSet) : r.render supplied =
    if r.segmentTexts supplied = [] then ['/'] else path (r.segmentTexts supplied) := by
  have joined (segments : List Segment) :
      (segments.flatMap fun s => if (r.renderSegment supplied s).isEmpty then []
        else '/' :: r.renderSegment supplied s) =
      path ((segments.map (r.renderSegment supplied)).filter (!·.isEmpty)) := by
    induction segments with
    | nil => rfl
    | cons s segments ih =>
      rw [List.flatMap_cons, ih, List.map_cons, List.filter_cons]
      cases (r.renderSegment supplied s).isEmpty <;> rfl
  unfold render
  dsimp only
  rw [joined, ← segmentTexts]
  simp only [List.isEmpty_iff, path_eq_nil_iff]

/-- A path is a slash, and begins and ends behind it as the parts do. -/
theorem exists_render (r : Route) (supplied : ParameterSet) : ∃ s, r.render supplied = '/' :: s ∧
    s.head? = (r.renderParts supplied).head? ∧ s.getLast? = (r.renderParts supplied).getLast? := by
  rw [render_eq_path, ← flatten_segmentTexts]
  split
  next none =>
    rw [none]
    exact ⟨[], rfl, rfl, rfl⟩
  next some =>
    obtain ⟨s, same, _, ends⟩ := exists_path_ends some fun x member => by
      simpa using List.of_mem_filter member
    exact ⟨s, same, ends⟩

theorem head?_renderParts {c : Char} : (r.renderParts supplied).head? = some c ↔
    ∃ p, r.parts.find? (r.rendersPart supplied) = some p ∧ (r.renderPart supplied p).head? = some c := by
  have texts : (fun p => (r.renderPart supplied p).head?.isSome) = r.rendersPart supplied := by
    funext p
    rw [rendersPart]
    cases r.renderPart supplied p <;> rfl
  rw [renderParts, List.head?_flatMap, findSome?_eq_some_iff_find?, texts]

theorem getLast?_renderParts {c : Char} : (r.renderParts supplied).getLast? = some c ↔
    ∃ p, r.parts.findRev? (r.rendersPart supplied) = some p ∧
      (r.renderPart supplied p).getLast? = some c := by
  have texts : (fun p => (r.renderPart supplied p).getLast?.isSome) = r.rendersPart supplied := by
    funext p
    rw [rendersPart]
    cases r.renderPart supplied p with
    | nil => rfl
    | cons c rest => rw [List.getLast?_cons]; rfl
  rw [renderParts, List.getLast?_flatMap, findSome?_eq_some_iff_find?, texts,
    List.findRev?_eq_find?_reverse]

section Edge

/-! Both ends of a text, `head?` and `getLast?`, are what this section calls its edge. -/

variable {edge : List Char → Option Char} (nothing : edge [] = none)
  (inside : ∀ {s : List Char} {c : Char}, edge s = some c → c ∈ s)
  (encoded : ∀ {wildcard : Bool} {s : List Char},
    edge (encodeValue wildcard s) = some '/' ↔ wildcard = true ∧ edge s = some '/')

include nothing inside encoded

/-- A part has a slash at an edge just if it is a wildcard slot whose text has one there. -/
theorem edge_renderPart (compiled : Compiled d r) {p : Part} (member : p ∈ r.parts) :
    edge (r.renderPart supplied p) = some '/' ↔
      ∃ name text, p = .slot .wildcard name ∧ r.resolve? supplied name = some text ∧
        edge text.toList = some '/' := by
  cases p with
  | literal text =>
    refine iff_of_false (fun slash => ?_) fun wild => ?_
    · obtain ⟨s, among, part⟩ := List.mem_flatMap.1 member
      exact (Pattern.literal_of_read compiled.segments_read among part).2 (inside slash)
    · obtain ⟨_, _, same, _⟩ := wild
      cases same
  | slot kind name =>
    rw [renderPart]
    cases resolved : r.resolve? supplied name with
    | none =>
      refine iff_of_false (fun slash => ?_) fun wild => ?_
      · cases nothing.symm.trans slash
      · obtain ⟨_, _, same, found, _⟩ := wild
        cases same
        cases resolved.symm.trans found
    | some text =>
      rw [encoded]
      constructor
      · intro wild
        cases kind with
        | simple => cases wild.1
        | wildcard => exact ⟨name, text, rfl, resolved, wild.2⟩
      · intro wild
        obtain ⟨_, _, same, found, slash⟩ := wild
        cases same
        cases resolved.symm.trans found
        exact ⟨rfl, slash⟩

theorem edge_of_chosen (compiled : Compiled d r) {chosen : Option Part}
    (among : ∀ p, chosen = some p → p ∈ r.parts) :
    (∃ p, chosen = some p ∧ edge (r.renderPart supplied p) = some '/') ↔
      ∃ name text, chosen = some (.slot .wildcard name) ∧ r.resolve? supplied name = some text ∧
        edge text.toList = some '/' := by
  constructor
  · intro slash
    obtain ⟨p, here, slash⟩ := slash
    obtain ⟨name, text, rfl, found⟩ :=
      (edge_renderPart nothing inside encoded compiled (among p here)).1 slash
    exact ⟨name, text, here, found⟩
  · intro wild
    obtain ⟨name, text, here, found⟩ := wild
    exact ⟨_, here, (edge_renderPart nothing inside encoded compiled (among _ here)).2
      ⟨name, text, rfl, found⟩⟩

end Edge

/-- A rendered path begins with a slash. It begins with two, or ends in one without being one, just if the
first or the last part that has text is a wildcard slot whose text does so: these keep their slashes. -/
theorem render_slashes (compiles : compile d = .ok r) (supplied : ParameterSet) :
    (r.render supplied).head? = some '/' ∧
    ((r.render supplied)[1]? = some '/' ↔
      ∃ name text, r.parts.find? (r.rendersPart supplied) = some (.slot .wildcard name) ∧
        r.resolve? supplied name = some text ∧ text.toList.head? = some '/') ∧
    ((r.render supplied).getLast? = some '/' ↔ r.render supplied = ['/'] ∨
      ∃ name text, r.parts.findRev? (r.rendersPart supplied) = some (.slot .wildcard name) ∧
        r.resolve? supplied name = some text ∧ text.toList.getLast? = some '/') := by
  have compiled := compile_eq_ok_iff.1 compiles
  obtain ⟨s, same, first, last⟩ := r.exists_render supplied
  rw [same]
  refine ⟨rfl, ?_, ?_⟩
  · rw [List.getElem?_cons_succ, ← List.head?_eq_getElem?, first, head?_renderParts]
    exact edge_of_chosen rfl List.mem_of_head? head?_encodeValue compiled
      fun p => List.mem_of_find?_eq_some
  · by_cases alone : s = []
    · rw [alone]
      exact iff_of_true rfl (.inl rfl)
    · have longer : '/' :: s ≠ ['/'] := fun root => alone (List.cons.inj root).2
      rw [List.getLast?_cons_of_ne_nil alone, last, getLast?_renderParts, or_iff_right longer]
      refine edge_of_chosen rfl List.mem_of_getLast? getLast?_encodeValue compiled fun p chosen => ?_
      rw [List.findRev?_eq_find?_reverse] at chosen
      exact List.mem_reverse.1 (List.mem_of_find?_eq_some chosen)

/-- An optional slot before the wildcard slot renders nothing, so the path begins with the wildcard text. -/
theorem render_slashes_skipped : ∃ r, compile ⟨":lang/*rest", none, .ofList [("lang", .absent)], .empty⟩ = .ok r ∧
    r.render (.ofList [("rest", .text "/a/b")]) = "//a/b".toList ∧
    (r.render (.ofList [("rest", .text "/a/b")])).head? = some '/' ∧
    ((r.render (.ofList [("rest", .text "/a/b")]))[1]? = some '/' ↔
      ∃ name text, r.parts.find? (r.rendersPart (.ofList [("rest", .text "/a/b")])) =
          some (.slot .wildcard name) ∧
        r.resolve? (.ofList [("rest", .text "/a/b")]) name = some text ∧ text.toList.head? = some '/') ∧
    ((r.render (.ofList [("rest", .text "/a/b")])).getLast? = some '/' ↔
      r.render (.ofList [("rest", .text "/a/b")]) = ['/'] ∨
      ∃ name text, r.parts.findRev? (r.rendersPart (.ofList [("rest", .text "/a/b")])) =
          some (.slot .wildcard name) ∧
        r.resolve? (.ofList [("rest", .text "/a/b")]) name = some text ∧ text.toList.getLast? = some '/') := by
  have run : (compile ⟨":lang/*rest", none, .ofList [("lang", .absent)], .empty⟩).toOption.any
      (fun r => r.render (.ofList [("rest", .text "/a/b")]) == "//a/b".toList) = true := by decide +kernel
  obtain ⟨r, compiles⟩ := exists_compile
    (d := ⟨":lang/*rest", none, .ofList [("lang", .absent)], .empty⟩) (by decide +kernel)
  rw [compiles] at run
  exact ⟨r, compiles, beq_iff_eq.1 run, render_slashes compiles _⟩

/-- Not every path that is rendered begins with one slash and ends in none: a wildcard slot takes a text with
slashes at its ends, and keeps them. -/
theorem not_every_render_canonical : ¬∀ (d : Declaration) (r : Route) (supplied accepted : ParameterSet),
    compile d = .ok r → r.accept supplied = some accepted →
      (r.render accepted).head? = some '/' ∧ (r.render accepted)[1]? ≠ some '/' ∧
      ((r.render accepted).getLast? = some '/' → r.render accepted = ['/']) := by
  intro claimed
  have run : (compile ⟨"*rest", none, .empty, .empty⟩).toOption.any (fun r =>
      r.accept (.ofList [("rest", .text "/a/")]) == some (.ofList [("rest", .text "/a/")]) &&
        r.render (.ofList [("rest", .text "/a/")]) == "//a/".toList) = true := by decide +kernel
  obtain ⟨r, compiles⟩ := exists_compile (d := ⟨"*rest", none, .empty, .empty⟩) (by decide +kernel)
  rw [compiles] at run
  simp only [Except.toOption, Option.any_some, Bool.and_eq_true, beq_iff_eq] at run
  obtain ⟨_, single, _⟩ := claimed _ r _ _ compiles run.1
  rw [run.2] at single
  exact single rfl

end Route

end UrlRouting
