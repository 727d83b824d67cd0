import UrlRouting.Proofs.Pattern.Spelling
import UrlRouting.Proofs.Route.Canonical
import UrlRouting.Proofs.Route.Captured
import UrlRouting.Proofs.Route.Divided

/-! Routes with several slots in a segment. Where literals stand between the slots, and the values have no
character of the literals beside them, a rendered path is captured with the values it was rendered with. -/

namespace UrlRouting
open Slash Percent

namespace Route

variable {d : Declaration} {r : Route} {supplied : ParameterSet}

/-- All slots are simple, between two in a segment stands a literal, and no literal has a percent sign. -/
structure Separated (r : Route) : Prop where
  simple : ∀ s ∈ r.segments, ∀ p ∈ s.parts, p.isWild = false
  apart : ∀ s ∈ r.segments, s.parts.IsChain fun p q => p.slot? = none ∨ q.slot? = none
  plain : ∀ s ∈ r.segments, ∀ text, .literal text ∈ s.parts → '%' ∉ text.toList

/-- Each parameter is given a value. In the form that is matched it has no character of the literals of its
segment, as they are decoded. -/
structure GivesClear (r : Route) (supplied : ParameterSet) : Prop where
  present : ∀ name ∈ r.params, (supplied.text? name).isSome = true
  clear : ∀ s ∈ r.segments, ∀ name ∈ s.names, ∀ value, supplied.text? name = some value →
    ∀ text, .literal text ∈ s.parts →
      List.Disjoint (matchedForm false value.toList) (Matcher.literalText text)

/-- The texts that stand for the parts in the decoded path. -/
def shownTexts (r : Route) (supplied : ParameterSet) : List (List (List Char)) :=
  r.segments.map fun s => s.parts.map (r.shown supplied)

theorem resolve?_of_text? {name value : String} (given : supplied.text? name = some value) :
    r.resolve? supplied name = some value := by
  rw [resolve?, given]

theorem GivesClear.exists_text (gives : r.GivesClear supplied) {s : Segment} (member : s ∈ r.segments)
    {kind : SlotKind} {name : String} (slot : .slot kind name ∈ s.parts) :
    ∃ value, supplied.text? name = some value :=
  Option.isSome_iff_exists.1 (gives.present name
    (List.mem_flatMap.2 ⟨s, member, List.mem_filterMap.2 ⟨_, slot, rfl⟩⟩))

namespace Separated

variable {s : Segment} {kind : SlotKind} {name value : String}

theorem kind_eq (separated : r.Separated) (member : s ∈ r.segments) (slot : .slot kind name ∈ s.parts) :
    kind = .simple := by
  cases kind with
  | simple => rfl
  | wildcard => cases separated.simple s member _ slot

theorem shown_slot (separated : r.Separated) (member : s ∈ r.segments) (slot : .slot kind name ∈ s.parts)
    (given : supplied.text? name = some value) :
    r.shown supplied (.slot kind name) = settledValue false value.toList := by
  rw [separated.kind_eq member slot]
  simp only [shown, resolve?_of_text? given, SlotKind.isWildcard]

theorem fits_shown (separated : r.Separated) (gives : r.GivesClear supplied) (member : s ∈ r.segments) :
    s.Fits (s.parts.map (r.shown supplied)) := by
  refine List.forall₂_map_right_iff.2 (List.forall₂_same.2 fun p inside => ?_)
  cases p with
  | literal text => rfl
  | slot kind name =>
    obtain ⟨value, given⟩ := gives.exists_text member inside
    have present := ne_nil_of_resolve? (resolve?_of_text? (r := r) given)
    rw [separated.shown_slot member inside given, separated.kind_eq member inside]
    exact ⟨settledValue_ne_nil present _, slash_notMem_settledValue _⟩

/-- The characters of the literals tell the parts of a segment from each other. -/
theorem divided (separated : r.Separated) (compiled : Compiled d r) (member : s ∈ r.segments) :
    Part.Divided (fun c => decide (c ∉ s.parts.flatMap Part.fixed)) s.parts := by
  refine ⟨fun p inside c own => ?_, fun p inside literal => ?_, separated.apart s member⟩
  · simpa using ⟨p, inside, own⟩
  · cases p with
    | literal text =>
      exact literalText_ne_nil (separated.plain s member text inside)
        (Pattern.literal_of_read compiled.segments_read member inside).1
    | slot kind name => cases literal

theorem clear_shown (separated : r.Separated) (gives : r.GivesClear supplied) (member : s ∈ r.segments) :
    List.Forall₂ (Part.Clear fun c => decide (c ∉ s.parts.flatMap Part.fixed)) s.parts
      (s.parts.map (r.shown supplied)) := by
  refine List.forall₂_map_right_iff.2 (List.forall₂_same.2 fun p inside => ?_)
  cases p with
  | literal text => trivial
  | slot kind name =>
    obtain ⟨value, given⟩ := gives.exists_text member inside
    rw [separated.shown_slot member inside given, ← matchedForm_eq]
    intro c own
    rw [decide_eq_true_eq, List.mem_flatMap]
    rintro ⟨q, other, shared⟩
    cases q with
    | literal text =>
      have named : name ∈ s.names := List.mem_filterMap.2 ⟨_, inside, rfl⟩
      exact gives.clear s member name named value given text other own shared
    | slot _ _ => cases shared

theorem slash_notMem (separated : r.Separated) (compiled : Compiled d r) {segments : List Segment}
    {texts : List (List (List Char))} (own : ∀ s ∈ segments, s ∈ r.segments)
    (fits : List.Forall₂ Segment.Fits segments texts) : ∀ x ∈ texts.map List.flatten, '/' ∉ x := by
  induction fits with
  | nil => exact List.forall_mem_nil _
  | @cons s t _ _ first _ ih =>
    obtain ⟨member, later⟩ := List.forall_mem_cons.1 own
    have slashless : Part.Slashless s.parts := fun text inside =>
      slash_notMem_literalText (separated.plain s member text inside)
        (Pattern.literal_of_read compiled.segments_read member inside).2
    refine List.forall_mem_cons.2 ⟨fun slash => ?_, ih later⟩
    obtain ⟨x, among, slash⟩ := List.mem_flatten.1 slash
    exact Part.slashless_of_fits first (separated.simple s member) slashless x among slash

theorem getLast?_laidOut (separated : r.Separated) (compiled : Compiled d r)
    {texts : List (List (List Char))} (fits : List.Forall₂ Segment.Fits r.segments texts) :
    (Segment.laidOut texts).getLast? ≠ some '/' := by
  have free := separated.slash_notMem compiled (fun _ => id) fits
  rw [Segment.laidOut_eq_path]
  refine getLast?_path fun x member => ⟨?_, bare_of_notMem (free x member)⟩
  obtain ⟨t, inside, rfl⟩ := List.mem_map.1 member
  obtain ⟨i, bound, rfl⟩ := List.getElem_of_mem inside
  have within : i < r.segments.length := fits.length_eq ▸ bound
  have own : r.segments[i] ∈ r.segments := List.getElem_mem within
  have nonempty := ((Pattern.spelling_of_read compiled.segments_read).1.each _ own).nonempty
  exact (separated.divided compiled own).flatten_ne_nil nonempty (fits.get within bound)

end Separated

theorem renderSegment_ne_nil (compiled : Compiled d r) (gives : r.GivesClear supplied) {s : Segment}
    (member : s ∈ r.segments) : r.renderSegment supplied s ≠ [] := by
  have nonempty := ((Pattern.spelling_of_read compiled.segments_read).1.each s member).nonempty
  obtain ⟨p, parts, split⟩ := List.exists_cons_of_ne_nil nonempty
  have inside : p ∈ s.parts := split ▸ List.mem_cons_self
  rw [renderSegment, split, List.flatMap_cons]
  apply List.append_ne_nil_of_left_ne_nil
  cases p with
  | literal text => exact (Pattern.literal_of_read compiled.segments_read member inside).1
  | slot kind name =>
    obtain ⟨value, given⟩ := gives.exists_text member inside
    exact renderPart_ne_nil (resolve?_of_text? given)

theorem laidOut_shownTexts (r : Route) (supplied : ParameterSet) :
    Segment.laidOut (r.shownTexts supplied) =
      path (r.segments.map fun s => s.parts.flatMap (r.shown supplied)) := by
  rw [Segment.laidOut_eq_path, shownTexts, List.map_map]
  simp only [Function.comp_def, List.flatMap_def]

theorem unescape_render (compiled : Compiled d r) (separated : r.Separated) (gives : r.GivesClear supplied) :
    unescape (r.render supplied) =
      if r.segments = [] then ['/'] else Segment.laidOut (r.shownTexts supplied) := by
  have all : r.segmentTexts supplied = r.segments.map (r.renderSegment supplied) := by
    refine List.filter_eq_self.2 fun x member => ?_
    obtain ⟨s, inside, rfl⟩ := List.mem_map.1 member
    simpa using renderSegment_ne_nil compiled gives inside
  rw [render_eq_path, all, laidOut_shownTexts]
  simp only [List.map_eq_nil_iff]
  split
  next => exact settles_slash.unescape
  next =>
    refine (settles_path fun s member => Settles.flatMap fun p inside => ?_).unescape
    exact settles_renderPart fun text same => separated.plain s member text (same ▸ inside)

theorem fits_shownTexts (separated : r.Separated) (gives : r.GivesClear supplied) :
    List.Forall₂ Segment.Fits r.segments (r.shownTexts supplied) :=
  List.forall₂_map_right_iff.2 (List.forall₂_same.2 fun _ => separated.fits_shown gives)

theorem eq_shownTexts (compiled : Compiled d r) (separated : r.Separated) (gives : r.GivesClear supplied)
    {texts : List (List (List Char))} (fits : List.Forall₂ Segment.Fits (r.segments.take texts.length) texts)
    (same : Segment.laidOut texts = Segment.laidOut (r.shownTexts supplied)) : texts = r.shownTexts supplied := by
  have all := fits_shownTexts separated gives
  have free := separated.slash_notMem compiled (fun _ => List.mem_of_mem_take) fits
  have free' := separated.slash_notMem compiled (fun _ => id) all
  rw [Segment.laidOut_eq_path, Segment.laidOut_eq_path] at same
  have count : (texts.map List.flatten).length = ((r.shownTexts supplied).map List.flatten).length := by
    rw [← count_path free, same, count_path free']
  have flattened := (append_path_inj (w := []) (v := []) count free free' same).2
  rw [List.length_map, List.length_map, ← all.length_eq] at count
  rw [count, List.take_length] at fits
  refine Segment.eq_map_of_fits fits (fun s member t first alike => ?_) flattened
  exact (separated.divided compiled member).eq_of_flatten_eq (separated.fits_shown gives member) first
    (separated.clear_shown gives member) alike

/-- The decoded path is covered in one way, by what is shown for the parts. -/
theorem covers_unescape_render (compiled : Compiled d r) (separated : r.Separated)
    (gives : r.GivesClear supplied) (texts : List (List (List Char))) :
    Segment.Covers r.segments r.tailStart texts (unescape (r.render supplied)) ↔
      texts = r.shownTexts supplied := by
  have all := fits_shownTexts separated gives
  rw [unescape_render compiled separated gives]
  constructor
  · intro covers
    obtain ⟨_, fits, path_eq⟩ := covers
    by_cases none : r.segments = []
    · rw [none, List.take_nil, List.forall₂_nil_left_iff] at fits
      rw [fits, shownTexts, none, List.map_nil]
    · rw [if_neg none] at path_eq
      refine eq_shownTexts compiled separated gives fits (path_eq.resolve_right fun ended => ?_).symm
      apply separated.getLast?_laidOut compiled all
      rw [ended.2, List.getLast?_append_of_ne_nil _ (List.cons_ne_nil _ _)]
      rfl
  · intro same
    subst same
    have least := r.tailStart_le_length
    refine ⟨all.length_eq ▸ least, by rwa [← all.length_eq, List.take_length], ?_⟩
    split
    next none =>
      rw [none] at least
      refine .inr ⟨Nat.le_zero.1 least, ?_⟩
      rw [shownTexts, none]
      rfl
    next => exact .inl rfl

/-- A path is rendered with values that keep clear of the literals beside them, and decoded: what is captured
are these values, as texts, over the defaults. The set given need not be one that the route accepts. -/
theorem capture_separated (compiles : compile d = .ok r) (unvalidated : r.Unvalidated)
    (separated : r.Separated) (gives : r.GivesClear supplied) :
    ∃ found, r.capture (unescape (r.render supplied)) = some found ∧ ∀ name, found.get? name =
      if name ∈ r.params then (supplied.text? name).map .text else r.defaults.get? name := by
  have compiled := compile_eq_ok_iff.1 compiles
  have shaped : r.matchesShape (unescape (r.render supplied)) = true :=
    (compiled.matchesShape_iff _).2 ⟨_, (covers_unescape_render compiled separated gives _).2 rfl⟩
  rw [← compiled.isSome_capture unvalidated] at shaped
  obtain ⟨found, captured⟩ := Option.isSome_iff_exists.1 shaped
  obtain ⟨texts, covers, values⟩ := compiled.get?_capture unvalidated captured
  obtain rfl := (covers_unescape_render compiled separated gives texts).1 covers
  refine ⟨found, captured, fun name => ?_⟩
  rw [values name]
  split
  next own =>
    obtain ⟨kind, _, s, member, slot⟩ := exists_slot_of_mem_params own
    obtain ⟨value, given⟩ := gives.exists_text member slot
    have taken : (name, settledValue false value.toList) ∈ Segment.taken r.segments (r.shownTexts supplied) :=
      separated.shown_slot member slot given ▸ Segment.mem_taken_map member slot (r.shown supplied)
    have bare := bare_of_notMem (slash_notMem_settledValue value.toList)
    have present := ne_nil_of_resolve? (resolve?_of_text? (r := r) given)
    rw [compiled.captured?_eq taken, trim_of_bare bare, if_neg (settledValue_ne_nil present _),
      restore_settledValue, String.ofList_toList, given]
    rfl
  next => rfl

/-- Escapes of the value do not get in the way, nor does the blank that a plus sign is read as. -/
theorem capture_separated_html : ∃ r found,
    compile ⟨":a+:b.html", none, .ofList [("view", .text "raw")], .empty⟩ = .ok r ∧
    r.capture (unescape (r.render (.ofList [("a", .text "50%/é"), ("b", .int 7)]))) = some found ∧
    found.get? "a" = some (.text "50%/é") ∧ found.get? "b" = some (.text "7") ∧
    found.get? "view" = some (.text "raw") := by
  obtain ⟨r, compiles⟩ := exists_compile
    (d := ⟨":a+:b.html", none, .ofList [("view", .text "raw")], .empty⟩) (by decide +kernel)
  have compiled := compile_eq_ok_iff.1 compiles
  have segments : r.segments =
      [⟨[.slot .simple "a", .literal "+", .slot .simple "b", .literal ".html"]⟩] := by
    have read : Pattern.read ":a+:b.html" =
        .ok [⟨[.slot .simple "a", .literal "+", .slot .simple "b", .literal ".html"]⟩] := by decide +kernel
    exact Except.ok.inj (compiled.segments_read.symm.trans read)
  have unvalidated : r.Unvalidated := fun name _ => by
    rw [compiled.validators_eq]
    rfl
  have separated : r.Separated := by
    refine ⟨?_, ?_, ?_⟩ <;> rw [segments] <;> simp [Part.isWild, Part.slot?]
  have first : ParameterSet.text? (.ofList [("a", .text "50%/é"), ("b", .int 7)]) "a" = some "50%/é" := by
    decide
  have second : ParameterSet.text? (.ofList [("a", .text "50%/é"), ("b", .int 7)]) "b" = some "7" := by
    decide +kernel
  have disjoint {x y : List Char} (apart : (x.all fun c => !y.contains c) = true) : List.Disjoint x y :=
    List.disjoint_left.2 (by simpa using apart)
  have gives : r.GivesClear (.ofList [("a", .text "50%/é"), ("b", .int 7)]) := by
    refine ⟨?_, ?_⟩
    · rw [params, segments]
      simp [Pattern.names, Segment.names, Part.name?, Part.slot?, first, second]
    · rw [segments]
      intro s member name named value given text literal
      obtain rfl := List.mem_singleton.1 member
      have texts : text = "+" ∨ text = ".html" := by simpa using literal
      have names : name = "a" ∨ name = "b" := by
        simpa [Segment.names, Part.name?, Part.slot?, eq_comm] using named
      rcases names with rfl | rfl
      · obtain rfl := Option.some.inj (first.symm.trans given)
        rcases texts with rfl | rfl <;> exact disjoint (by decide +kernel)
      · obtain rfl := Option.some.inj (second.symm.trans given)
        rcases texts with rfl | rfl <;> exact disjoint (by decide +kernel)
  obtain ⟨found, captured, values⟩ := capture_separated compiles unvalidated separated gives
  refine ⟨r, found, compiles, captured, ?_, ?_, ?_⟩
  · rw [values, params, segments, if_pos (by decide), first]
    rfl
  · rw [values, params, segments, if_pos (by decide), second]
    rfl
  · rw [values, params, segments, if_neg (by decide), compiled.defaults_eq]
    decide

end Route

end UrlRouting
