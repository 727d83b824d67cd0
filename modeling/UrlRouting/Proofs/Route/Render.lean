import UrlRouting.Proofs.Percent.Encode
import UrlRouting.Proofs.Route.Plain

/-! Rendered paths of routes whose segments are each one literal or one slot. The path is made of the
texts of the segments that are rendered, and once decoded it is covered by these segments. -/

namespace UrlRouting
open Slash Percent

/-- A slot, or a literal in which nothing is escaped and no query or fragment begins. -/
def Part.Plain : Part → Prop
  | .literal text => '%' ∉ text.toList ∧ Unmarked text.toList
  | .slot _ _ => True

/-- A segment of one such part. -/
def Segment.Plain (s : Segment) : Prop := ∃ p, s.parts = [p] ∧ p.Plain

theorem Segment.exists_parts {segments : List Segment} (plain : ∀ s ∈ segments, s.Plain) :
    ∃ parts : List Part, segments = parts.map single ∧ ∀ p ∈ parts, p.Plain := by
  induction segments with
  | nil => exact ⟨[], rfl, nofun⟩
  | cons s segments ih =>
    obtain ⟨parts, rfl, later⟩ := ih fun t member => plain t (List.mem_cons_of_mem s member)
    obtain ⟨p, only, here⟩ := plain s List.mem_cons_self
    refine ⟨p :: parts, ?_, fun q member => ?_⟩
    · obtain ⟨_⟩ := s
      obtain rfl : _ = [p] := only
      rfl
    · rcases List.mem_cons.1 member with rfl | member
      · exact here
      · exact later q member

theorem ParamValue.ne_empty_of_text? {v : ParamValue} {text : String} (value : v.text? = some text) :
    text ≠ "" := by
  cases v with
  | text s =>
    rw [ParamValue.text?] at value
    by_cases empty : s = ""
    · rw [if_pos empty] at value
      cases value
    · rw [if_neg empty] at value
      cases value
      exact empty
  | int i =>
    cases value
    rw [Int.toString_eq_repr, Int.repr_eq_if]
    split
    · exact Nat.repr_ne_empty
    · simp
  | absent => cases value

namespace Route

variable {r : Route} {supplied : ParameterSet}

theorem ne_nil_of_resolve? {name text : String} (resolved : r.resolve? supplied name = some text) :
    text.toList ≠ [] := by
  have present : text ≠ "" := by
    have value (set : ParameterSet) (found : set.text? name = some text) : text ≠ "" := by
      obtain ⟨v, _, value⟩ := Option.bind_eq_some_iff.1 found
      exact ParamValue.ne_empty_of_text? value
    unfold resolve? at resolved
    split at resolved
    next found =>
      cases resolved
      exact value supplied found
    next => exact value r.defaults resolved
  simpa using present

theorem settledValue_ne_nil {text : List Char} (present : text ≠ []) (wildcard : Bool) :
    settledValue wildcard text ≠ [] := flatMap_ne_nil present (settledAt_ne_nil wildcard)

/-- What stands for a part in the decoded path. -/
def shown (r : Route) (supplied : ParameterSet) : Part → List Char
  | .literal text => Matcher.literalText text
  | .slot kind name =>
    match r.resolve? supplied name with
    | some text => settledValue kind.isWildcard text.toList
    | none => []

/-- A part that has a text, and one that can be told from its neighbours. -/
def Renderable (r : Route) (supplied : ParameterSet) : Part → Prop
  | .literal text => text.toList ≠ [] ∧ '/' ∉ text.toList ∧ '%' ∉ text.toList ∧ Unmarked text.toList
  | .slot kind name => ∃ text, r.resolve? supplied name = some text ∧
      (kind = .wildcard → '\n' ∉ text.toList ∧ Bare text.toList)

theorem settles_plain {s : List Char} (plain : '%' ∉ s) : Settles s (s.map blanked) := by
  induction s with
  | nil => exact settles_nil
  | cons c s ih =>
    have first : c ≠ '%' := fun same => plain (same ▸ List.mem_cons_self)
    exact (settles_char first).append (ih fun member => plain (List.mem_cons_of_mem c member))

theorem slash_notMem_map_blanked {s : List Char} (slashless : '/' ∉ s) : '/' ∉ s.map blanked := by
  intro member
  obtain ⟨c, inside, same⟩ := List.mem_map.1 member
  unfold blanked at same
  split at same
  · cases same
  · exact slashless (same ▸ inside)

theorem literalText_eq {text : String} (plain : '%' ∉ text.toList) :
    Matcher.literalText text = text.toList.map blanked := (settles_plain plain).unescape

theorem literalText_ne_nil {text : String} (plain : '%' ∉ text.toList) (present : text.toList ≠ []) :
    Matcher.literalText text ≠ [] := by
  rwa [literalText_eq plain, ne_eq, List.map_eq_nil_iff]

theorem slash_notMem_literalText {text : String} (plain : '%' ∉ text.toList) (slashless : '/' ∉ text.toList) :
    '/' ∉ Matcher.literalText text := by
  rw [literalText_eq plain]
  exact slash_notMem_map_blanked slashless

/-- Each text behind its slash is decoded by itself. -/
theorem settles_path {α : Type} {as : List α} {f g : α → List Char} (each : ∀ a ∈ as, Settles (f a) (g a)) :
    Settles (path (as.map f)) (path (as.map g)) := by
  rw [path, path, List.flatMap_map, List.flatMap_map]
  exact Settles.flatMap fun a member => settles_slash.append (each a member)

theorem settles_renderPart {p : Part} (plain : ∀ text, p = .literal text → '%' ∉ text.toList) :
    Settles (r.renderPart supplied p) (r.shown supplied p) := by
  cases p with
  | literal text =>
    rw [shown, literalText_eq (plain text rfl)]
    exact settles_plain (plain text rfl)
  | slot kind name =>
    rw [renderPart, shown]
    cases r.resolve? supplied name with
    | none => exact settles_nil
    | some text => exact settles_encodeValue _ _

theorem renderPart_ne_nil {kind : SlotKind} {name text : String}
    (resolved : r.resolve? supplied name = some text) : r.renderPart supplied (.slot kind name) ≠ [] := by
  simp only [renderPart, resolved, encodeValue_eq]
  exact flatMap_ne_nil (ne_nil_of_resolve? resolved) (encodeAt_ne_nil _)

theorem Renderable.rendered {p : Part} (renderable : r.Renderable supplied p) :
    r.renderPart supplied p ≠ [] ∧ Bare (r.renderPart supplied p) ∧ Unmarked (r.renderPart supplied p) ∧
      Settles (r.renderPart supplied p) (r.shown supplied p) := by
  cases p with
  | literal text =>
    obtain ⟨present, slashless, plain, unmarked⟩ := renderable
    exact ⟨present, bare_of_notMem slashless, unmarked, settles_renderPart fun _ same => by cases same; exact plain⟩
  | slot kind name =>
    obtain ⟨text, resolved, wild⟩ := renderable
    refine ⟨renderPart_ne_nil resolved, ?_, ?_, settles_renderPart nofun⟩
    all_goals simp only [renderPart, resolved]
    · rw [encodeValue_eq]
      cases kind with
      | simple =>
        apply bare_of_notMem
        intro member
        obtain ⟨c, _, inside⟩ := List.mem_flatMap.1 member
        cases (slash_mem_encodeAt inside).1
      | wildcard =>
        exact (wild rfl).2.flatMap (encodeAt_ne_nil _) fun c member => (slash_mem_encodeAt member).2
    · exact ⟨notMem_encodeValue (by decide) (by decide) (by decide) (by decide) _ _,
        notMem_encodeValue (by decide) (by decide) (by decide) (by decide) _ _⟩

theorem Renderable.fits {p : Part} (renderable : r.Renderable supplied p) :
    p.Fits (r.shown supplied p) ∧ Bare (r.shown supplied p) := by
  cases p with
  | literal text =>
    obtain ⟨_, slashless, plain, _⟩ := renderable
    exact ⟨rfl, bare_of_notMem (slash_notMem_literalText plain slashless)⟩
  | slot kind name =>
    obtain ⟨text, resolved, wild⟩ := renderable
    have present := settledValue_ne_nil (ne_nil_of_resolve? resolved) kind.isWildcard
    simp only [shown, resolved]
    cases kind with
    | simple =>
      have slashless := slash_notMem_settledValue text.toList
      exact ⟨⟨present, slashless⟩, bare_of_notMem slashless⟩
    | wildcard =>
      obtain ⟨oneLine, bare⟩ := wild rfl
      refine ⟨⟨present, ?_⟩, bare.flatMap (settledAt_ne_nil _) fun c member => ?_⟩
      · intro member
        obtain ⟨c, inText, inside⟩ := List.mem_flatMap.1 member
        rcases mem_settledAt inside with other | ⟨same, _⟩
        · exact absurd other (by decide)
        · exact oneLine (same ▸ inText)
      · rcases mem_settledAt member with other | ⟨same, _⟩
        · exact absurd other (by decide)
        · exact same.symm

end Route

end UrlRouting
