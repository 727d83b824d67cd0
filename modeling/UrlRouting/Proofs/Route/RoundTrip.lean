import Mathlib.Data.List.Nodup
import UrlRouting.Proofs.NameMap
import UrlRouting.Proofs.Pattern.Read
import UrlRouting.Proofs.Route.Render

/-! A rendered path is captured with the texts it was rendered with, where each segment is one literal
or one slot and the segments can be told apart. -/

namespace UrlRouting
open Slash Percent Segment

namespace Route

variable {d : Declaration} {r : Route} {supplied : ParameterSet} {parts : List Part} {k : Nat}

/-- Each segment is a plain literal or one slot, at most one is a wildcard slot, and what follows it
has to be there. -/
structure Reversible (r : Route) : Prop where
  plain : ∀ s ∈ r.segments, s.Plain
  one : (Matcher.slots r.segments).countP (·.1.isWildcard) ≤ 1
  closed : ∀ before s after, r.segments = before ++ s :: after →
    (∃ name, .slot .wildcard name ∈ s.parts) → after ≠ [] → r.tailStart = r.segments.length

/-- The slots that have a text are those of the first segments, and the others stand in the optional
tail. A text for a wildcard slot is on one line and has no slashes at its ends. -/
structure RendersFirst (r : Route) (supplied : ParameterSet) (k : Nat) : Prop where
  enough : r.tailStart ≤ k
  bounded : k ≤ r.segments.length
  present : ∀ s ∈ r.segments.take k, ∀ name ∈ s.names, (r.resolve? supplied name).isSome = true
  absent : ∀ s ∈ r.segments.drop k, ∀ name ∈ s.names, r.resolve? supplied name = none
  wildcard : ∀ name text, (.wildcard, name) ∈ Matcher.slots r.segments →
    r.resolve? supplied name = some text → '\n' ∉ text.toList ∧ Bare text.toList

/-- The segments are these parts, of which the texts in a path can be told. -/
structure Parted (r : Route) (parts : List Part) : Prop where
  segments_eq : r.segments = parts.map single
  literal : ∀ text, .literal text ∈ parts →
    text.toList ≠ [] ∧ '/' ∉ text.toList ∧ '%' ∉ text.toList ∧ Unmarked text.toList
  one : parts.countP Part.isWild ≤ 1
  closed : Part.Closed parts r.tailStart
  nodup : (parts.filterMap Part.name?).Nodup

theorem slots_map_single (parts : List Part) :
    Matcher.slots (parts.map single) = parts.filterMap Part.slot? := by
  induction parts with
  | nil => rfl
  | cons p parts ih =>
    cases p with
    | literal text => exact ih
    | slot kind name => exact congrArg _ ih

theorem countP_slots (parts : List Part) :
    (parts.filterMap Part.slot?).countP (·.1.isWildcard) = parts.countP Part.isWild := by
  induction parts with
  | nil => rfl
  | cons p parts ih =>
    match p with
    | .literal text => exact ih
    | .slot .simple name => exact ih
    | .slot .wildcard name =>
      have head : (Part.slot .wildcard name :: parts).filterMap Part.slot? =
          (.wildcard, name) :: parts.filterMap Part.slot? := rfl
      rw [head, List.countP_cons_of_pos rfl, List.countP_cons_of_pos rfl, ih]

theorem Compiled.exists_parted (compiled : Compiled d r) (reversible : r.Reversible) :
    ∃ parts, Parted r parts := by
  obtain ⟨parts, segments_eq, plain⟩ := Segment.exists_parts reversible.plain
  have one := reversible.one
  rw [segments_eq, slots_map_single, countP_slots] at one
  refine ⟨parts, segments_eq, fun text member => ?_, one, ?_, ?_⟩
  · have inside : single (.literal text) ∈ r.segments := segments_eq ▸ List.mem_map_of_mem member
    obtain ⟨present, slashless⟩ := Pattern.literal_of_read compiled.segments_read inside List.mem_cons_self
    exact ⟨present, slashless, plain _ member⟩
  · intro before p after split wild left
    have segments : r.segments = before.map single ++ single p :: after.map single := by
      rw [segments_eq, split, List.map_append, List.map_cons]
    have slot : ∃ name, .slot .wildcard name ∈ (single p).parts := by
      match p with
      | .slot .wildcard name => exact ⟨name, List.mem_cons_self⟩
    rw [reversible.closed _ _ _ segments slot (by simpa using left), segments_eq, List.length_map]
  · rw [← names_map_single, ← segments_eq]
    exact Pattern.nodup_of_read compiled.segments_read

namespace Parted

theorem slashless (parted : Parted r parts) : Part.Slashless parts := by
  intro text member
  obtain ⟨_, slashless, plain, _⟩ := parted.literal text member
  exact slash_notMem_literalText plain slashless

theorem ne_nil_of_fits (parted : Parted r parts) {p : Part} (member : p ∈ parts) {x : List Char}
    (fits : p.Fits x) : x ≠ [] := by
  match p with
  | .literal text =>
    obtain ⟨present, _, plain, _⟩ := parted.literal text member
    rw [show x = Matcher.literalText text from fits]
    exact literalText_ne_nil plain present
  | .slot .simple name => exact fits.1
  | .slot .wildcard name => exact fits.1

theorem renderable (parted : Parted r parts) (renders : r.RendersFirst supplied k) :
    ∀ p ∈ parts.take k, r.Renderable supplied p := by
  intro p member
  cases p with
  | literal text => exact parted.literal text (List.mem_of_mem_take member)
  | slot kind name =>
    have inside : single (.slot kind name) ∈ r.segments.take k := by
      rw [parted.segments_eq, ← List.map_take]
      exact List.mem_map_of_mem member
    obtain ⟨text, resolved⟩ :=
      Option.isSome_iff_exists.1 (renders.present _ inside name List.mem_cons_self)
    refine ⟨text, resolved, ?_⟩
    intro same
    subst same
    apply renders.wildcard name text _ resolved
    rw [parted.segments_eq, slots_map_single]
    exact List.mem_filterMap.2 ⟨_, List.mem_of_mem_take member, rfl⟩

/-- What is not rendered is a slot without text. -/
theorem exists_slot_of_mem_drop (parted : Parted r parts) (renders : r.RendersFirst supplied k)
    {p : Part} (member : p ∈ parts.drop k) :
    ∃ kind name, p = .slot kind name ∧ r.resolve? supplied name = none := by
  have inside : single p ∈ r.segments.drop k := by
    rw [parted.segments_eq, ← List.map_drop]
    exact List.mem_map_of_mem member
  have later : single p ∈ r.segments.drop r.tailStart := by
    obtain ⟨n, rfl⟩ := Nat.exists_eq_add_of_le renders.enough
    rw [← List.drop_drop] at inside
    exact List.mem_of_mem_drop inside
  obtain ⟨_, sole, _⟩ := (isLeast_tailStart r).1 _ later
  cases p with
  | literal text => cases sole
  | slot kind name => exact ⟨kind, name, rfl, renders.absent _ inside name List.mem_cons_self⟩

theorem render_eq (parted : Parted r parts) (renders : r.RendersFirst supplied k) :
    r.render supplied =
      if parts.take k = [] then ['/'] else path ((parts.take k).map (r.renderPart supplied)) := by
  have first (ps : List Part) (present : ∀ p ∈ ps, r.renderPart supplied p ≠ []) :
      ((ps.map single).flatMap fun s => if (r.renderSegment supplied s).isEmpty then []
        else '/' :: r.renderSegment supplied s) = path (ps.map (r.renderPart supplied)) := by
    induction ps with
    | nil => rfl
    | cons p ps ih =>
      have text : r.renderSegment supplied (single p) = r.renderPart supplied p := List.flatMap_singleton ..
      rw [List.map_cons, List.flatMap_cons, ih fun q member => present q (List.mem_cons_of_mem p member), text,
        if_neg (by simpa using present p List.mem_cons_self), List.map_cons, path_cons, List.cons_append]
  have last (ps : List Part) (absent : ∀ p ∈ ps, r.renderPart supplied p = []) :
      ((ps.map single).flatMap fun s => if (r.renderSegment supplied s).isEmpty then []
        else '/' :: r.renderSegment supplied s) = [] := by
    apply List.flatMap_eq_nil_iff.2
    intro s member
    obtain ⟨p, inside, rfl⟩ := List.mem_map.1 member
    have text : r.renderSegment supplied (single p) = r.renderPart supplied p := List.flatMap_singleton ..
    rw [text, absent p inside]
    rfl
  have whole : (r.segments.flatMap fun s => if (r.renderSegment supplied s).isEmpty then []
      else '/' :: r.renderSegment supplied s) = path ((parts.take k).map (r.renderPart supplied)) := by
    conv_lhs => rw [parted.segments_eq, ← List.take_append_drop k parts]
    rw [List.map_append, List.flatMap_append, first, last, List.append_nil]
    · intro p member
      obtain ⟨kind, name, rfl, absent⟩ := parted.exists_slot_of_mem_drop renders member
      simp only [renderPart, absent]
    · exact fun p member => (parted.renderable renders p member).rendered.1
  unfold render
  simp only [whole]
  by_cases missing : parts.take k = []
  · rw [if_pos missing, missing]
    rfl
  · obtain ⟨p, ps, some⟩ := List.exists_cons_of_ne_nil missing
    rw [if_neg missing, some, if_neg (by rw [List.map_cons, path_cons]; exact Bool.false_ne_true)]

theorem canonical_render (parted : Parted r parts) (renders : r.RendersFirst supplied k) :
    Canonical (r.render supplied) ∧ Unmarked (r.render supplied) := by
  rw [parted.render_eq renders]
  split
  next => exact ⟨⟨[], rfl, bare_nil⟩, by decide⟩
  next present =>
    have each : ∀ x ∈ (parts.take k).map (r.renderPart supplied), x ≠ [] ∧ Bare x ∧ Unmarked x := by
      intro x member
      obtain ⟨p, inside, rfl⟩ := List.mem_map.1 member
      obtain ⟨some, bare, unmarked, _⟩ := (parted.renderable renders p inside).rendered
      exact ⟨some, bare, unmarked⟩
    obtain ⟨s, same, _, bare⟩ := canonical_path (by simpa using present)
      fun x member => ⟨(each x member).1, (each x member).2.1⟩
    exact ⟨⟨s, same, bare⟩, unmarked_path fun x member => (each x member).2.2⟩

theorem unescape_render (parted : Parted r parts) (renders : r.RendersFirst supplied k) :
    unescape (r.render supplied) =
      if parts.take k = [] then ['/'] else path ((parts.take k).map (r.shown supplied)) := by
  rw [parted.render_eq renders]
  split
  next => exact settles_slash.unescape
  next =>
    exact (settles_path fun p member => (parted.renderable renders p member).rendered.2.2.2).unescape

/-- The decoded path is covered in one way, by what is shown for the parts that are rendered. -/
theorem covers_unescape_render (parted : Parted r parts) (renders : r.RendersFirst supplied k)
    (texts : List (List (List Char))) :
    Segment.Covers r.segments r.tailStart texts (unescape (r.render supplied)) ↔
      texts = ((parts.take k).map (r.shown supplied)).map ([·]) := by
  have bounded : k ≤ parts.length := by
    have := renders.bounded
    rwa [parted.segments_eq, List.length_map] at this
  have count : ((parts.take k).map (r.shown supplied)).length = k := by
    rw [List.length_map, List.length_take]
    omega
  have fits : List.Forall₂ Part.Fits (parts.take k) ((parts.take k).map (r.shown supplied)) :=
    List.forall₂_map_right_iff.2 (List.forall₂_same.2 fun p member =>
      (parted.renderable renders p member).fits.1)
  have good : ∀ x ∈ (parts.take k).map (r.shown supplied), x ≠ [] ∧ Bare x := by
    intro x member
    obtain ⟨p, inside, rfl⟩ := List.mem_map.1 member
    obtain ⟨fits, bare⟩ := (parted.renderable renders p inside).fits
    exact ⟨parted.ne_nil_of_fits (List.mem_of_mem_take inside) fits, bare⟩
  have here : path ((parts.take k).map (r.shown supplied)) = unescape (r.render supplied) ∨
      r.tailStart = 0 ∧ k = 0 ∧ unescape (r.render supplied) = ['/'] := by
    rw [parted.unescape_render renders]
    split
    next missing =>
      have none : k = 0 := by
        rw [missing] at count
        exact count.symm
      have := renders.enough
      exact .inr ⟨by omega, none, rfl⟩
    next => exact .inl rfl
  rw [parted.segments_eq, covers_map_single]
  constructor
  · intro given
    obtain ⟨xs, rfl, enough, fits', path_eq⟩ := given
    congr 1
    rcases here with same | ⟨_, none, same⟩
    · rcases path_eq with other | ⟨_, other⟩
      · exact Part.texts_unique parted.one parted.closed parted.slashless enough
          (by rw [count]; exact renders.enough) fits' (by rwa [count]) (other.symm.trans same.symm)
      · refine absurd ?_ (getLast?_path good)
        rw [same, other, List.getLast?_append_of_ne_nil _ (List.cons_ne_nil _ _)]
        rfl
    · rw [same] at path_eq
      rw [none]
      rcases path_eq with other | ⟨_, other⟩
      · cases xs with
        | nil => cases other
        | cons x xs =>
          obtain ⟨p, _, first, _, split⟩ := List.forall₂_cons_right_iff.1 fits'
          have member : p ∈ parts := List.mem_of_mem_take (split ▸ List.mem_cons_self)
          rw [path_cons] at other
          have empty := (List.append_eq_nil_iff.1 (List.cons.inj other).2.symm).1
          exact absurd empty (parted.ne_nil_of_fits member first)
      · exact path_eq_nil_iff.1 (List.append_left_eq_self.1 other.symm)
  · intro same
    subst same
    refine ⟨_, rfl, by rw [count]; exact renders.enough, by rwa [count], ?_⟩
    rcases here with same | ⟨least, none, same⟩
    · exact .inl same.symm
    · refine .inr ⟨least, ?_⟩
      rw [same, none]
      rfl

end Parted

/-- What a slot of the name has captured, as a value. -/
def captured? (captures : List (String × List Char)) (name : String) : Option ParamValue :=
  (captures.lookup name).bind fun taken =>
    if trim taken = [] then none else some (.text (String.ofList (restore (trim taken))))

theorem addCapture_eq (captures : List (String × List Char)) :
    addCapture captures = fun values name => (captured? captures name).elim values (values.insert name) := by
  funext values name
  unfold addCapture captured?
  cases captures.lookup name with
  | none => rfl
  | some taken =>
    simp only [Option.bind_some, List.isEmpty_iff]
    split <;> rfl

/-- The values of a rendered path: the texts that were put into it, over the defaults. -/
def Recovers (r : Route) (supplied found : ParameterSet) : Prop :=
  ∀ name, found.get? name =
    if name ∈ r.params then ((r.resolve? supplied name).map .text).or (r.defaults.get? name)
    else r.defaults.get? name

namespace Parted

theorem params_eq (parted : Parted r parts) : r.params = parts.filterMap Part.name? := by
  rw [params, parted.segments_eq, names_map_single]

theorem captured?_eq (parted : Parted r parts) (renders : r.RendersFirst supplied k) {name : String}
    (member : name ∈ r.params) :
    captured? (Part.taken parts ((parts.take k).map (r.shown supplied))).reverse name =
      (r.resolve? supplied name).map .text := by
  have nodup := parted.nodup
  conv at nodup => rw [← List.take_append_drop k parts, List.filterMap_append]
  obtain ⟨nodup_take, _, apart⟩ := List.nodup_append.1 nodup
  have keys : ((Part.taken parts ((parts.take k).map (r.shown supplied))).reverse.map (·.1)) =
      ((parts.take k).filterMap Part.name?).reverse := by
    rw [Part.taken_map, List.map_reverse, List.map_filterMap]
    congr 2
    funext p
    cases p.name? <;> rfl
  rw [parted.params_eq] at member
  obtain ⟨p, inside, named⟩ := List.mem_filterMap.1 member
  rw [← List.take_append_drop k parts, List.mem_append] at inside
  unfold captured?
  rcases inside with inside | inside
  · have taken : (name, r.shown supplied p) ∈
        (Part.taken parts ((parts.take k).map (r.shown supplied))).reverse := by
      rw [List.mem_reverse, Part.taken_map]
      exact List.mem_filterMap.2 ⟨p, inside, by rw [named]; rfl⟩
    rw [lookup_of_mem (by rw [keys]; exact List.nodup_reverse.2 nodup_take) taken, Option.bind_some]
    cases p with
    | literal text => cases named
    | slot kind other =>
      obtain rfl : other = name := Option.some.inj named
      have renderable := parted.renderable renders _ inside
      obtain ⟨fits, bare⟩ := renderable.fits
      have present := parted.ne_nil_of_fits (List.mem_of_mem_take inside) fits
      obtain ⟨text, resolved, _⟩ := renderable
      rw [trim_of_bare bare, if_neg present]
      simp only [shown, resolved, restore_settledValue, String.ofList_toList, Option.map_some]
  · obtain ⟨kind, other, rfl, absent⟩ := parted.exists_slot_of_mem_drop renders inside
    obtain rfl : other = name := Option.some.inj named
    have missing : other ∉ (parts.take k).filterMap Part.name? := fun first =>
      apart other first other (List.mem_filterMap.2 ⟨_, inside, named⟩) rfl
    rw [lookup_of_notMem (by rw [keys, List.mem_reverse]; exact missing), absent]
    rfl

/-- A rendered path is captured with what was put into it. -/
theorem capture_render (parted : Parted r parts) (compiled : Compiled d r) (unvalidated : r.Unvalidated)
    (renders : r.RendersFirst supplied k) :
    r.matchesShape (unescape (r.render supplied)) = true ∧
      ∃ found, r.capture (unescape (r.render supplied)) = some found ∧ r.Recovers supplied found := by
  have shaped : r.matchesShape (unescape (r.render supplied)) = true :=
    (compiled.matchesShape_iff _).2 ⟨_, (parted.covers_unescape_render renders _).2 rfl⟩
  refine ⟨shaped, ?_⟩
  have accepted := compiled.isSome_capture unvalidated (unescape (r.render supplied))
  rw [shaped, capture, Option.isSome_map] at accepted
  obtain ⟨captures, found⟩ := Option.isSome_iff_exists.1 accepted
  obtain ⟨texts, covers, caught⟩ := compiled.covers_of_search unvalidated found
  rw [(parted.covers_unescape_render renders texts).1 covers, parted.segments_eq, taken_map_single] at caught
  refine ⟨r.params.foldl (addCapture captures) r.defaults, by rw [capture, found]; rfl, fun name => ?_⟩
  rw [addCapture_eq, NameMap.get?_foldl_insert]
  split
  next member => rw [caught, parted.captured?_eq renders member]
  next => rfl

end Parted

end Route

end UrlRouting
