import UrlRouting.Proofs.Pattern.Read
import UrlRouting.Proofs.Regex.Written
import UrlRouting.Proofs.Route.Shape
import UrlRouting.Proofs.Text.Boundary

/-! The shape of a route as an expression in text. Where no slot has a validator, the text of the
matcher is read as the very expression that the shape is; what that expression accepts is what the
segments cover. -/

namespace UrlRouting
open Regex

/-- The name of a slot is a name, and has no validator. -/
def Part.Readable (validators : Validators) : Part → Prop
  | .literal _ => True
  | .slot _ name => Pattern.isName name.toList = true ∧ validators.get? name = none

namespace Matcher.Strict

theorem head?_quoteLiteral (text : List Char) : (quoteLiteral text).head? ≠ some '?' := by
  cases text with
  | nil => exact nofun
  | cons c text =>
    rw [quoteLiteral, List.flatMap_cons]
    by_cases special : isMeta c = true
    · rw [if_pos special]
      exact fun head => absurd (Option.some.inj head) (by decide)
    · rw [if_neg special]
      intro head
      exact special (Option.some.inj head ▸ (by decide))

theorem written_quoteLiteral (text : List Char) :
    Written (quoteLiteral text) (text.map Node.literal) := by
  induction text with
  | nil => exact written_nil
  | cons c text ih =>
    rw [quoteLiteral, List.flatMap_cons]
    have first : Written (if isMeta c = true then ['\\', c] else [c]) [Node.literal c] := by
      split
      next special => exact written_escaped special
      next plain => exact written_plain (Bool.eq_false_iff.2 plain)
    exact first.append ih (head?_quoteLiteral text)

/-- The bracketed set of a simple slot holds all characters but the slash. -/
theorem part?_slashless (rest : List Char) : part? .standard ('[' :: ("^/]".toList ++ rest)) =
    some (⟨.one (CharSet.except '/'), 1, false⟩, rest) := by
  have negated : foldAndNegate .standard true (Members.none.add (CharSet.single '/') 0).written.set =
      some (CharSet.except '/') := by decide +kernel
  have opens : openBracket? .standard ('^' :: '/' :: ']' :: rest) =
      some (true, Members.none, '/' :: ']' :: rest) := rfl
  have member : member? .standard ('/' :: ']' :: rest) = some (CharSet.single '/', ']' :: rest) := rfl
  have closes (m : Members) (fuel : Nat) : operands? .standard none m (fuel + 1) (']' :: rest) =
      some (m.written, rest) := by
    rw [operands?]
    rfl
  have operand (fuel : Nat) : operands? .standard none Members.none (fuel + 2) ('/' :: ']' :: rest) =
      some ((Members.none.add (CharSet.single '/') 0).written, rest) := by
    rw [operands?]
    change ((member? .standard ('/' :: ']' :: rest)).bind fun s =>
      operands? .standard none (Members.none.add s.1 0) (fuel + 1) s.2) = _
    rw [member, Option.bind_some, closes]
  have fuel : 2 * ('^' :: '/' :: ']' :: rest).length + 2 = 2 * rest.length + 5 + 2 + 1 := by
    simp only [List.length_cons]
    omega
  change part? .standard ('[' :: '^' :: '/' :: ']' :: rest) = _
  rw [part?, fuel, bracket?, opens]
  simp only [Option.bind_eq_bind, Option.bind_some, operand, negated]
  rfl

theorem written_slotText (kind : SlotKind) : Written (slotText kind) [slotNode kind] := by
  cases kind with
  | simple => exact written_repeated step?_plus rfl (by decide) part?_slashless
  | wildcard =>
    exact written_repeated (x := []) (n := Node.leaf (.one (CharSet.except '\n'))) step?_plus rfl (by decide)
      fun _ => rfl

theorem inner_of_isNameChar {c : Char} (kept : Pattern.isNameChar c = true) :
    isNameInner c = true ∧ (c != '>') = true := by
  have other : c ≠ '>' := by
    intro same
    rw [same] at kept
    exact absurd kept (by decide +kernel)
  simp only [Pattern.isNameChar, Bool.or_eq_true] at kept
  simp only [isNameInner, Bool.or_eq_true, bne_iff_ne]
  exact ⟨kept.symm.elim (fun same => .inl (.inl (.inl (.inl same)))) .inr, other⟩

theorem groupName?_of_isName {name : List Char} (named : Pattern.isName name = true) (rest : List Char) :
    groupName? (name ++ '>' :: rest) = some (String.ofList name, rest) := by
  cases name with
  | nil => cases named
  | cons c more =>
    simp only [Pattern.isName, Pattern.isNameStart, Bool.and_eq_true, List.all_eq_true] at named
    obtain ⟨⟨start, first⟩, later⟩ := named
    have kept : ∀ d ∈ c :: more, (d != '>') = true := by
      intro d member
      rcases List.mem_cons.1 member with rfl | member
      · exact (inner_of_isNameChar first).2
      · exact (inner_of_isNameChar (later d member)).2
    have stops : Stops (· != '>') ('>' :: rest) := stops_cons rfl rest
    have good : (isNameStart c && more.all isNameInner) = true := by
      rw [Bool.and_eq_true, List.all_eq_true]
      exact ⟨by rw [isNameStart, Bool.or_comm]; exact start,
        fun d member => (inner_of_isNameChar (later d member)).1⟩
    simp only [groupName?, stops.takeWhile_append kept, stops.dropWhile_append kept, if_pos good]

theorem opening?_slot {name : String} (named : Pattern.isName name.toList = true) (rest : List Char) :
    opening? .standard ('?' :: 'P' :: '<' :: (name.toList ++ ['>']) ++ rest) =
      some (.group (.capture (some name)) .standard, rest) := by
  have text : '?' :: 'P' :: '<' :: (name.toList ++ ['>']) ++ rest =
      '?' :: 'P' :: '<' :: (name.toList ++ '>' :: rest) := by simp
  rw [text, opening?]
  change opening?.named .standard (name.toList ++ '>' :: rest) = _
  rw [opening?.named, groupName?_of_isName named, String.ofList_toList]
  rfl

theorem written_part {validators : Validators} {p : Part} (readable : p.Readable validators) :
    Written (part validators p) (Shape.partNodes p) := by
  cases p with
  | literal text => exact written_quoteLiteral _
  | slot kind name =>
    obtain ⟨named, free⟩ := readable
    have body : slot validators kind name = slotText kind := by rw [slot, free]
    have text : part validators (.slot kind name) =
        '(' :: ('?' :: 'P' :: '<' :: (name.toList ++ ['>']) ++ slotText kind) ++ [')'] := by
      rw [part, body]
      simp
    rw [text]
    refine (written_slotText kind).capture (opening?_slot named) ?_
    cases kind <;> decide

theorem head?_part {validators : Validators} (p : Part) : (part validators p).head? ≠ some '?' := by
  cases p with
  | literal text => exact head?_quoteLiteral _
  | slot kind name => exact fun head => absurd (Option.some.inj head) (by decide)

theorem head?_append {x y : List Char} (left : x.head? ≠ some '?') (right : y.head? ≠ some '?') :
    (x ++ y).head? ≠ some '?' := by
  cases x with
  | nil => exact right
  | cons c x => exact left

theorem head?_flatMap {α : Type} {f : α → List Char} {as : List α}
    (each : ∀ a ∈ as, (f a).head? ≠ some '?') :
    (as.flatMap f).head? ≠ some '?' := by
  induction as with
  | nil => exact nofun
  | cons a as ih =>
    rw [List.flatMap_cons]
    exact head?_append (each a List.mem_cons_self) (ih fun b member => each b (List.mem_cons_of_mem a member))

theorem written_flatMap {α : Type} {f : α → List Char} {g : α → List Node} {as : List α}
    (each : ∀ a ∈ as, Written (f a) (g a)) (heads : ∀ a ∈ as, (f a).head? ≠ some '?') :
    Written (as.flatMap f) (as.flatMap g) := by
  induction as with
  | nil => exact written_nil
  | cons a as ih =>
    rw [List.flatMap_cons, List.flatMap_cons]
    exact (each a List.mem_cons_self).append
      (ih (fun b member => each b (List.mem_cons_of_mem a member))
        fun b member => heads b (List.mem_cons_of_mem a member))
      (head?_flatMap fun b member => heads b (List.mem_cons_of_mem a member))

theorem written_segment {validators : Validators} {s : Segment}
    (readable : ∀ p ∈ s.parts, p.Readable validators) :
    Written (segment validators s) (Shape.segmentNodes s) := by
  have slash : Written ['/'] [Node.literal '/'] := written_plain (by decide)
  exact slash.append
    (written_flatMap (fun p member => written_part (readable p member)) fun p _ => head?_part p)
    (head?_flatMap fun p _ => head?_part p)

theorem head?_segment {validators : Validators} (s : Segment) :
    (segment validators s).head? ≠ some '?' :=
  fun head => absurd (Option.some.inj head) (by decide)

theorem head?_tail {validators : Validators} (tail : List Segment) :
    (Strict.tail validators tail).head? ≠ some '?' := by
  cases tail with
  | nil => exact nofun
  | cons s tail => exact fun head => absurd (Option.some.inj head) (by decide)

theorem written_tail {validators : Validators} {tail : List Segment}
    (readable : ∀ s ∈ tail, ∀ p ∈ s.parts, p.Readable validators) :
    Written (Strict.tail validators tail) (Shape.tailNodes tail) := by
  induction tail with
  | nil => exact written_nil
  | cons s tail ih =>
    have body := (written_segment (readable s List.mem_cons_self)).append
      (ih fun t member => readable t (List.mem_cons_of_mem s member)) (head?_tail tail)
    have text : Strict.tail validators (s :: tail) =
        '(' :: ("?:".toList ++ (segment validators s ++ Strict.tail validators tail)) ++ [')', '?'] := by
      rw [Strict.tail]
      simp
    rw [text]
    exact body.optional (fun _ => rfl) (head?_append (head?_segment s) (head?_tail tail))

theorem written_text {validators : Validators} {required tail : List Segment}
    (readable : ∀ s ∈ required ++ tail, ∀ p ∈ s.parts, p.Readable validators) :
    Written (text validators required tail)
      (Node.leaf (.anchor .textStart) :: required.flatMap Shape.segmentNodes ++ Shape.tailNodes tail ++
        (if required.isEmpty then [(Node.literal '/').repeated 0 (some 1) true] else []) ++
        [Node.leaf (.anchor .textEnd)]) := by
  have segments : Written (required.flatMap (segment validators)) (required.flatMap Shape.segmentNodes) :=
    written_flatMap (fun s member => written_segment (readable s (List.mem_append_left tail member)))
      fun s _ => head?_segment s
  have optional : Written (Strict.tail validators tail) (Shape.tailNodes tail) :=
    written_tail fun s member => readable s (List.mem_append_right required member)
  have last : Written (if required.isEmpty then "/?".toList else [])
      (if required.isEmpty then [(Node.literal '/').repeated 0 (some 1) true] else []) := by
    split
    · exact written_repeated (x := []) step?_questionMark rfl (by decide) fun _ => rfl
    · exact written_nil
  have head?_last : (if required.isEmpty then "/?".toList else []).head? ≠ some '?' := by
    split <;> decide
  exact (((written_textStart.append segments (head?_flatMap fun s _ => head?_segment s)).append
    optional (head?_tail tail)).append last head?_last).append written_textEnd (by decide)

theorem parse?_text {validators : Validators} {required tail : List Segment}
    (readable : ∀ s ∈ required ++ tail, ∀ p ∈ s.parts, p.Readable validators) :
    Node.parse? (text validators required tail) = some (Shape.node required tail) :=
  (written_text readable).parse?_eq

end Matcher.Strict

namespace Route

/-- The text of the matcher of a route that holds its slots to the validators given. -/
def matcherText (r : Route) (validators : Validators) : List Char :=
  Matcher.Strict.text validators (Matcher.splitTail r.defaults r.segments).1
    (Matcher.splitTail r.defaults r.segments).2

variable {d : Declaration} {r : Route}

theorem Compiled.readable (compiled : Compiled d r) {validators : Validators}
    (free : ∀ name ∈ r.params, validators.get? name = none) :
    ∀ s ∈ r.segments, ∀ p ∈ s.parts, p.Readable validators := by
  intro s inside p member
  cases p with
  | literal text => trivial
  | slot kind name =>
    refine ⟨Pattern.isName_of_read compiled.segments_read inside member, free name ?_⟩
    exact List.mem_flatMap.2 ⟨s, inside, List.mem_filterMap.2 ⟨_, member, rfl⟩⟩

/-- Where the validators name no slot, the text of the matcher compiles to the shape. -/
theorem Compiled.compile?_matcherText (compiled : Compiled d r) {validators : Validators}
    (free : ∀ name ∈ r.params, validators.get? name = none) :
    Regex.compile? (r.matcherText validators) = some r.matchers.shape := by
  have readable := compiled.readable free
  rw [← Matcher.splitTail_append r.defaults r.segments] at readable
  rw [Regex.compile?, matcherText, Matcher.Strict.parse?_text readable, Option.bind_some]
  exact (Matcher.build?_eq_some compiled.matchers_built).1

theorem Compiled.compile?_strict (compiled : Compiled d r) :
    Regex.compile? (r.matcherText r.validators) = some r.matchers.strict := by
  have chosen := (Matcher.build?_eq_some compiled.matchers_built).2.1
  rw [Matcher.strict?] at chosen
  split at chosen
  next => exact chosen
  next unused =>
    rw [← Option.some.inj chosen]
    apply compiled.compile?_matcherText
    intro name member
    rw [params, Matcher.names_eq_slots] at member
    obtain ⟨s, inside, rfl⟩ := List.mem_map.1 member
    cases found : r.validators.get? s.2 with
    | none => rfl
    | some fragment =>
      exact absurd (List.any_eq_true.2 ⟨s, inside, by rw [NameMap.contains, found]; rfl⟩) unused

/-- The shape of a route that compiles, said without its matcher: a path has it if the first segments
cover it, no fewer than stand before the optional tail. The matchers are what their texts say. -/
theorem shape_covers (compiled : compile d = .ok r) :
    IsLeast {t | ∀ s ∈ r.segments.drop t, ∃ name, s.sole? = some name ∧ r.defaults.contains name = true}
        r.tailStart ∧
      Regex.compile? (r.matcherText .empty) = some r.matchers.shape ∧
      Regex.compile? (r.matcherText r.validators) = some r.matchers.strict ∧
      (∀ path, r.matchesShape path = true ↔
        ∃ texts, Segment.Covers r.segments r.tailStart texts path) ∧
      (r.Unvalidated → ∀ path,
        ((r.capture path).isSome = true ↔ ∃ texts, Segment.Covers r.segments r.tailStart texts path) ∧
        ∀ captures, r.matchers.strict.search path = some captures →
          r.capture path = some (r.params.foldl (addCapture captures) r.defaults) ∧
          ∃ texts, Segment.Covers r.segments r.tailStart texts path ∧
            captures = (Segment.taken r.segments texts).reverse) := by
  have result := compile_eq_ok_iff.1 compiled
  refine ⟨isLeast_tailStart r, result.compile?_matcherText fun _ _ => rfl, result.compile?_strict,
    result.matchesShape_iff, fun unvalidated path => ⟨?_, ?_⟩⟩
  · rw [result.isSome_capture unvalidated, result.matchesShape_iff]
  · intro captures found
    exact ⟨by rw [capture, found]; rfl, result.covers_of_search unvalidated found⟩

theorem shape_covers_dotted :
    ∃ r, compile ⟨"a.b+/:(x)-:y/*w", none, .ofList [("w", .absent)], .empty⟩ = .ok r ∧
      r.tailStart = 2 ∧ r.matchesShape "/a.b /1-2/3/4".toList = true := by
  obtain ⟨r, compiled⟩ := exists_compile
    (d := ⟨"a.b+/:(x)-:y/*w", none, .ofList [("w", .absent)], .empty⟩) (by decide +kernel)
  have result := compile_eq_ok_iff.1 compiled
  have segments : r.segments = [⟨[.literal "a.b+"]⟩,
      ⟨[.slot .simple "x", .literal "-", .slot .simple "y"]⟩, ⟨[.slot .wildcard "w"]⟩] := by
    have read : Pattern.read "a.b+/:(x)-:y/*w" = .ok [⟨[.literal "a.b+"]⟩,
        ⟨[.slot .simple "x", .literal "-", .slot .simple "y"]⟩, ⟨[.slot .wildcard "w"]⟩] := by
      decide +kernel
    exact Except.ok.inj (result.segments_read.symm.trans read)
  have start : r.tailStart = 2 := by
    rw [tailStart, segments, result.defaults_eq]
    decide +kernel
  refine ⟨r, compiled, start, ((shape_covers compiled).2.2.2.1 _).2
    ⟨[["a.b ".toList], [['1'], ['-'], ['2']], ["3/4".toList]], ?_, ?_, .inl ?_⟩⟩
  · rw [start]
    decide
  · rw [segments]
    decide +kernel
  · decide

end Route

end UrlRouting
