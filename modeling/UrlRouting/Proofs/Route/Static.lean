import UrlRouting.Proofs.Pattern.Spelling
import UrlRouting.Proofs.Percent.Pieces
import UrlRouting.Proofs.Route.Accept
import UrlRouting.Proofs.Route.Canonical
import UrlRouting.Proofs.Route.Captured

/-! Routes without parameters. Such a route is rendered as the pieces of its pattern, as they stand. It
matches one path, that of the pieces decoded by themselves, while a path is decoded as a whole or not at
all; so it matches its own path unless that makes a difference. -/

namespace UrlRouting
open Slash Percent

namespace Percent

variable {texts : List (List Char)}

theorem valid_path_iff : Valid (octets (path texts)) ↔ ∀ x ∈ texts, Valid (octets x) := by
  induction texts using List.reverseRecOn with
  | nil => exact iff_of_true ⟨[], rfl⟩ (List.forall_mem_nil _)
  | append_singleton texts x ih =>
    rw [path_append, path_singleton, valid_append_slash_iff, ih, List.forall_mem_append,
      List.forall_mem_singleton]

theorem unescape_path (valid : Valid (octets (path texts))) :
    unescape (path texts) = path (texts.map unescape) := by
  induction texts using List.reverseRecOn with
  | nil => rfl
  | append_singleton texts x ih =>
    rw [path_append, path_singleton] at valid ⊢
    rw [unescape_append_slash valid, ih (valid_append_slash_iff.1 valid).1, List.map_append, path_append,
      List.map_singleton, path_singleton]

/-- All of the texts decode, or decoding changes none of them. -/
def DecodeAlike (texts : List (List Char)) : Prop :=
  (∀ x ∈ texts, Valid (octets x)) ∨ ∀ x ∈ texts, unescape x = x

theorem path_inj {others : List (List Char)} (count : texts.length = others.length)
    (free : ∀ x ∈ texts, '/' ∉ x) (free' : ∀ x ∈ others, '/' ∉ x) : path texts = path others ↔ texts = others :=
  ⟨fun same => (append_path_inj (w := []) (v := []) count free free' same).2, congrArg path⟩

/-- Decoding a path is decoding its texts just if these decode alike. -/
theorem unescape_path_eq_iff (free : ∀ x ∈ texts, '/' ∉ x) :
    unescape (path texts) = path (texts.map unescape) ↔ DecodeAlike texts := by
  by_cases valid : Valid (octets (path texts))
  · exact iff_of_true (unescape_path valid) (.inl (valid_path_iff.1 valid))
  · -- The path is left as it stands, and so has to be each text.
    have decoded : ∀ x ∈ texts.map unescape, '/' ∉ x := by
      intro x member
      obtain ⟨y, inside, rfl⟩ := List.mem_map.1 member
      exact slash_notMem_unescape (free y inside)
    have unchanged : texts = texts.map unescape ↔ ∀ x ∈ texts, unescape x = x := by
      conv_lhs => rw [eq_comm, ← List.map_id texts, List.map_map]
      exact List.map_inj_left
    rw [unescape_of_not_valid valid, path_inj (List.length_map unescape).symm free decoded, unchanged,
      DecodeAlike, ← valid_path_iff, or_iff_right valid]

end Percent

theorem Part.Spelling.eq_literal {parts : List Part} {text : List Char} (spelling : Spelling parts text)
    (regular : Regular parts) (static : ∀ p ∈ parts, p.name? = none) (present : text ≠ []) :
    parts = [.literal (String.ofList text)] := by
  cases spelling with
  | nil => exact absurd rfl present
  | grouped kind name more => cases static _ List.mem_cons_self
  | plain kind name more ends => cases static _ List.mem_cons_self
  | @literal t parts rest more =>
    obtain ⟨_, apart, _⟩ := regular_cons.1 regular
    cases more with
    | nil => rw [List.append_nil, String.ofList_toList]
    | literal u more =>
      -- no two literals stand side by side
      simp [slot?] at apart
    | grouped kind name more => cases static _ (List.mem_cons_of_mem _ List.mem_cons_self)
    | plain kind name more ends => cases static _ (List.mem_cons_of_mem _ List.mem_cons_self)

theorem Part.forall₂_fits_literal_iff {texts xs : List (List Char)} :
    List.Forall₂ Part.Fits (texts.map fun x => .literal (String.ofList x)) xs ↔ xs = texts.map unescape := by
  have fits (x y : List Char) : Part.Fits (.literal (String.ofList x)) y ↔ unescape x = y := by
    rw [Part.Fits, Matcher.literalText, String.toList_ofList, eq_comm]
  rw [List.forall₂_map_left_iff, eq_comm, ← List.forall₂_eq_eq_eq, List.forall₂_map_left_iff]
  simp only [fits]

theorem Pattern.eq_map_single {texts : List (List Char)} {segments : List Segment}
    (read : List.Forall₂ (fun x s => readParts x = .ok s.parts) texts segments)
    (good : ∀ x ∈ texts, x ≠ [] ∧ '/' ∉ x) (static : names segments = []) :
    segments = texts.map fun x => .single (.literal (String.ofList x)) := by
  induction read with
  | nil => rfl
  | @cons x s texts segments first _ ih =>
    obtain ⟨⟨present, free⟩, later⟩ := List.forall_mem_cons.1 good
    obtain ⟨here, rest⟩ := List.append_eq_nil_iff.1 static
    obtain ⟨spelling, regular⟩ := Part.spelling_of_readParts free first
    have literal := spelling.eq_literal regular (List.filterMap_eq_nil_iff.1 here) present
    rw [List.map_cons, ← ih later rest, Segment.single, ← literal]

namespace Route

variable {d : Declaration} {r : Route} {supplied : ParameterSet} {p : List Char}

/-- The pieces of the pattern, which is normalized. -/
def pieces (r : Route) : List (List Char) := filled r.pattern.toList

theorem good_of_mem_pieces {x : List Char} (member : x ∈ r.pieces) : x ≠ [] ∧ '/' ∉ x :=
  good_of_mem_filled member

theorem unmarked_of_mem_pieces (unmarked : Unmarked r.pattern.toList) {x : List Char} (member : x ∈ r.pieces) :
    Unmarked x := by
  have within := subset_of_mem_pieces (List.mem_of_mem_filter member)
  exact ⟨fun query => unmarked.1 (within query), fun fragment => unmarked.2 (within fragment)⟩

theorem accept_empty (static : r.params = []) : r.accept .empty = some .empty := by
  refine accept_eq_some_iff.2 ⟨List.forall_mem_nil _, Nat.zero_le _, fun name member => ?_⟩
  have own := (mem_required.1 member).1
  rw [static] at own
  cases own

namespace Compiled

theorem params_eq {names : List String} (compiled : Compiled d r)
    (read : (Pattern.read d.pattern).map Pattern.names = .ok names) : r.params = names := by
  rw [compiled.segments_read] at read
  exact Except.ok.inj read

theorem pieces_eq (compiled : Compiled d r) : r.pieces = filled d.pattern.toList := by
  have leading := filled_run_append 1 (trim d.pattern.toList)
  rw [pieces, compiled.pattern_eq, Pattern.normalize, String.toList_ofList, ← filled_trim d.pattern.toList]
  exact leading

section Static

variable (compiled : Compiled d r) (static : r.params = [])

include compiled static

theorem segments_eq_map :
    r.segments = r.pieces.map fun x => .single (.literal (String.ofList x)) := by
  rw [compiled.pieces_eq]
  obtain ⟨read, _⟩ := Pattern.readSegments_eq_ok_iff.1 (Pattern.readSegments_of_read compiled.segments_read)
  exact Pattern.eq_map_single read (fun x => good_of_mem_filled) static

theorem render_static (supplied : ParameterSet) :
    r.render supplied = if r.pieces = [] then ['/'] else path r.pieces := by
  have text (x : List Char) : r.renderSegment supplied (.single (.literal (String.ofList x))) = x := by
    rw [renderSegment, Segment.single, List.flatMap_singleton, renderPart, String.toList_ofList]
  have texts : r.segmentTexts supplied = r.pieces := by
    rw [segmentTexts, compiled.segments_eq_map static, List.map_map]
    simp only [Function.comp_def, text, List.map_id']
    exact List.filter_eq_self.2 fun x member => by simpa using (good_of_mem_pieces member).1
  rw [render_eq_path, texts]

theorem canonical_render_static : Canonical (r.render supplied) := by
  rw [compiled.render_static static]
  split
  next => exact ⟨[], rfl, bare_nil⟩
  next some =>
    obtain ⟨s, same, _, bare⟩ := canonical_path some fun x member =>
      ⟨(good_of_mem_pieces member).1, bare_of_notMem (good_of_mem_pieces member).2⟩
    exact ⟨s, same, bare⟩

theorem unmarked_render_static (unmarked : Unmarked r.pattern.toList) : Unmarked (r.render supplied) := by
  rw [compiled.render_static static]
  split
  next => decide
  next => exact unmarked_path fun x member => unmarked_of_mem_pieces unmarked member

theorem tailStart_static : r.tailStart = r.segments.length := by
  refine Nat.le_antisymm r.tailStart_le_length (List.drop_eq_nil_iff.1 ?_)
  refine List.eq_nil_iff_forall_not_mem.2 fun s member => ?_
  obtain ⟨name, sole, _⟩ := (isLeast_tailStart r).1 s member
  have inside := List.mem_of_mem_drop member
  rw [compiled.segments_eq_map static] at inside
  obtain ⟨x, _, rfl⟩ := List.mem_map.1 inside
  cases sole

/-- The path of the pieces, each decoded by itself, is covered and no other. -/
theorem exists_covers_static :
    (∃ texts, Segment.Covers r.segments r.tailStart texts p) ↔
      p = path (r.pieces.map unescape) ∨ r.pieces = [] ∧ p = ['/'] := by
  have parts : r.segments = (r.pieces.map fun x => Part.literal (String.ofList x)).map .single := by
    rw [List.map_map]
    exact compiled.segments_eq_map static
  have least : r.tailStart = r.pieces.length := by
    rw [compiled.tailStart_static static, parts, List.length_map, List.length_map]
  rw [least, parts]
  simp only [Segment.covers_map_single]
  constructor
  · rintro ⟨_, xs, rfl, enough, fits, path_eq⟩
    have whole : (r.pieces.map fun x => Part.literal (String.ofList x)).take xs.length =
        r.pieces.map fun x => Part.literal (String.ofList x) :=
      List.take_of_length_le (by rwa [List.length_map])
    rw [whole, Part.forall₂_fits_literal_iff] at fits
    rw [fits] at path_eq
    refine path_eq.imp id fun ⟨empty, same⟩ => ?_
    have missing := List.length_eq_zero_iff.1 empty
    rw [missing] at same
    exact ⟨missing, same⟩
  · intro given
    refine ⟨_, r.pieces.map unescape, rfl, (List.length_map _).ge, ?_, ?_⟩
    · rw [List.length_map, List.take_of_length_le (List.length_map _).le, Part.forall₂_fits_literal_iff]
    · refine given.imp id fun ⟨missing, same⟩ => ?_
      rw [missing, same]
      exact ⟨rfl, rfl⟩

/-- The route has the shape of its own path just if the pieces decode alike. -/
theorem matchesShape_render_static (supplied : ParameterSet) :
    r.matchesShape (unescape (r.render supplied)) = true ↔ DecodeAlike r.pieces := by
  rw [compiled.matchesShape_iff, compiled.exists_covers_static static, compiled.render_static static]
  split
  next none =>
    rw [none, settles_slash.unescape]
    exact iff_of_true (.inr ⟨rfl, rfl⟩) (.inl (List.forall_mem_nil _))
  next some =>
    rw [unescape_path_eq_iff fun x member => (good_of_mem_pieces member).2]
    exact or_iff_left fun both => some both.1

theorem capture_static (shaped : r.matchesShape p = true) : r.capture p = some r.defaults := by
  have unvalidated : r.Unvalidated := fun name member => by
    rw [static] at member
    cases member
  rw [← compiled.isSome_capture unvalidated] at shaped
  obtain ⟨found, captured⟩ := Option.isSome_iff_exists.1 shaped
  obtain ⟨captures, _, same⟩ := Option.map_eq_some_iff.1 captured
  rw [static] at same
  rw [captured, ← same]
  rfl

end Static

end Compiled

end Route

end UrlRouting
