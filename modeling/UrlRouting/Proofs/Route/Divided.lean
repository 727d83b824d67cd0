import Mathlib.Data.List.Chain
import UrlRouting.Proofs.Route.Plain

/-! Texts of several slots with literals between them. A slot takes as much as it can, and may take the text
of a literal; but where there is a division in which the slots are clear of the characters of the literals,
there is no other: these characters stand in the text as often as in the literals, so that in every division
they are left to the literals. -/

namespace UrlRouting
open Slash

namespace Part

variable {free : Char → Bool} {p : Part} {parts : List Part} {x : List Char} {xs ys : List (List Char)}

/-- The text that always stands for the part: that of a literal, decoded. -/
def fixed : Part → List Char
  | .literal text => Matcher.literalText text
  | .slot _ _ => []

/-- In a slot, a text of free characters only. -/
def Clear (free : Char → Bool) : Part → List Char → Prop
  | .literal _, _ => True
  | .slot _ _, x => ∀ c ∈ x, free c = true

/-- No two slots stand side by side, and between them are characters that are not free. -/
structure Divided (free : Char → Bool) (parts : List Part) : Prop where
  bound : ∀ p ∈ parts, ∀ c ∈ p.fixed, free c = false
  present : ∀ p ∈ parts, p.slot? = none → p.fixed ≠ []
  apart : parts.IsChain fun p q => p.slot? = none ∨ q.slot? = none

theorem Divided.tail (divided : Divided free (p :: parts)) : Divided free parts :=
  ⟨fun q member => divided.bound q (List.mem_cons_of_mem p member),
    fun q member => divided.present q (List.mem_cons_of_mem p member), divided.apart.tail⟩

theorem countP_of_fits (bound : ∀ c ∈ p.fixed, free c = false) (fits : p.Fits x) :
    p.fixed.length ≤ x.countP (!free ·) ∧ (x.countP (!free ·) = p.fixed.length ↔ p.Clear free x) := by
  cases p with
  | literal text =>
    obtain rfl : x = Matcher.literalText text := fits
    have all : (Matcher.literalText text).countP (!free ·) = (Matcher.literalText text).length :=
      List.countP_eq_length.2 fun c member => by rw [bound c member]; rfl
    exact ⟨all.ge, iff_of_true all trivial⟩
  | slot kind name =>
    refine ⟨Nat.zero_le _, ?_⟩
    rw [fixed, List.length_nil, List.countP_eq_zero, Clear]
    simp only [Bool.not_eq_true', Bool.not_eq_false]

/-- A text that is divided has the characters of the literals, and no more of the kind just if its slots
are clear of them. -/
theorem countP_flatten (bound : ∀ p ∈ parts, ∀ c ∈ p.fixed, free c = false)
    (fits : List.Forall₂ Fits parts xs) :
    (parts.flatMap fixed).length ≤ xs.flatten.countP (!free ·) ∧
      (xs.flatten.countP (!free ·) = (parts.flatMap fixed).length ↔
        List.Forall₂ (Clear free) parts xs) := by
  induction fits with
  | nil => exact ⟨Nat.zero_le _, iff_of_true rfl .nil⟩
  | cons first _ ih =>
    obtain ⟨here, later⟩ := List.forall_mem_cons.1 bound
    obtain ⟨least, equal⟩ := countP_of_fits here first
    obtain ⟨leasts, equals⟩ := ih later
    rw [List.flatMap_cons, List.flatten_cons, List.length_append, List.countP_append, List.forall₂_cons,
      ← equal, ← equals]
    omega

/-- Behind a slot the text goes on with a character that is not free, if it goes on. -/
theorem Divided.stops (divided : Divided free (p :: parts)) (slot : p.slot?.isSome = true)
    (fits : List.Forall₂ Fits parts xs) : Stops free xs.flatten := by
  cases fits with
  | nil => exact stops_nil free
  | @cons q x parts xs first _ =>
    have literal : q.slot? = none := by
      refine (List.isChain_cons_cons.1 divided.apart).1.resolve_left fun none => ?_
      rw [none] at slot
      cases slot
    have present := divided.tail.present q List.mem_cons_self literal
    have bound := divided.tail.bound q List.mem_cons_self
    cases q with
    | literal text =>
      obtain rfl : x = Matcher.literalText text := first
      have begins : (Matcher.literalText text ++ xs.flatten).head? = (Matcher.literalText text).head? :=
        List.head?_append_of_ne_nil _ present
      exact fun c head => bound c (List.mem_of_head? (begins.symm.trans head))
    | slot kind name => cases literal

/-- Texts that are clear are told from each other by what they make up. -/
theorem Divided.eq_of_clear (divided : Divided free parts) (fits : List.Forall₂ Fits parts xs)
    (fits' : List.Forall₂ Fits parts ys) (clear : List.Forall₂ (Clear free) parts xs)
    (clear' : List.Forall₂ (Clear free) parts ys) (same : xs.flatten = ys.flatten) : xs = ys := by
  induction parts generalizing xs ys with
  | nil =>
    cases fits
    cases fits'
    rfl
  | cons p parts ih =>
    obtain _ | @⟨_, x, _, xs, first, rest⟩ := fits
    obtain _ | @⟨_, y, _, ys, first', rest'⟩ := fits'
    obtain _ | ⟨here, later⟩ := clear
    obtain _ | ⟨here', later'⟩ := clear'
    rw [List.flatten_cons, List.flatten_cons] at same
    have both : x = y ∧ xs.flatten = ys.flatten := by
      cases p with
      | literal text =>
        have alike : x = y := Eq.trans first (Eq.symm first')
        subst alike
        exact ⟨rfl, List.append_cancel_left same⟩
      | slot kind name =>
        exact (divided.stops rfl rest).append_inj (divided.stops rfl rest') here here' same
    rw [both.1, ih divided.tail rest rest' later later' both.2]

/-- There is one division of a text if there is one in which the slots are clear. -/
theorem Divided.eq_of_flatten_eq (divided : Divided free parts) (fits : List.Forall₂ Fits parts xs)
    (fits' : List.Forall₂ Fits parts ys) (clear : List.Forall₂ (Clear free) parts xs)
    (same : ys.flatten = xs.flatten) : ys = xs := by
  have counted := (countP_flatten divided.bound fits).2.2 clear
  rw [← same] at counted
  exact divided.eq_of_clear fits' fits ((countP_flatten divided.bound fits').2.1 counted) clear same

theorem Divided.flatten_ne_nil (divided : Divided free parts) (nonempty : parts ≠ [])
    (fits : List.Forall₂ Fits parts xs) : xs.flatten ≠ [] := by
  cases fits with
  | nil => exact absurd rfl nonempty
  | @cons p x parts xs first _ =>
    apply List.append_ne_nil_of_left_ne_nil
    match p with
    | .literal text =>
      obtain rfl : x = Matcher.literalText text := first
      exact divided.present _ List.mem_cons_self rfl
    | .slot .simple name => exact first.1
    | .slot .wildcard name => exact first.1

end Part

namespace Segment

theorem laidOut_eq_path (texts : List (List (List Char))) : laidOut texts = path (texts.map List.flatten) := by
  rw [path, List.flatMap_map]
  rfl

/-- Texts of segments are known if those of each segment are known by what they make up. -/
theorem eq_map_of_fits {segments : List Segment} {texts : List (List (List Char))}
    {f : Segment → List (List Char)} (fits : List.Forall₂ Fits segments texts)
    (told : ∀ s ∈ segments, ∀ t, s.Fits t → t.flatten = (f s).flatten → t = f s)
    (same : texts.map List.flatten = (segments.map f).map List.flatten) : texts = segments.map f := by
  induction fits with
  | nil => rfl
  | cons first _ ih =>
    obtain ⟨here, later⟩ := List.forall_mem_cons.1 told
    obtain ⟨alike, rest⟩ := List.cons.inj same
    rw [List.map_cons, here _ first alike, ih later rest]

theorem mem_taken_map {segments : List Segment} {s : Segment} {kind : SlotKind} {name : String}
    (member : s ∈ segments) (slot : .slot kind name ∈ s.parts) (f : Part → List Char) :
    (name, f (.slot kind name)) ∈ taken segments (segments.map fun s => s.parts.map f) := by
  have inside : (name, f (.slot kind name)) ∈ Part.taken s.parts (s.parts.map f) := by
    have whole := Part.taken_map s.parts f s.parts.length
    rw [List.take_length] at whole
    rw [whole]
    exact List.mem_filterMap.2 ⟨_, slot, rfl⟩
  induction segments with
  | nil => cases member
  | cons first segments ih =>
    rw [List.map_cons, taken, List.zip_cons_cons, List.flatMap_cons, List.mem_append]
    rcases List.mem_cons.1 member with rfl | later
    · exact .inl inside
    · exact .inr (ih later)

end Segment

end UrlRouting
