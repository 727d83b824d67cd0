import UrlRouting.Proofs.Route.Shape
import UrlRouting.Proofs.Text.Path

/-! Segments of one part each. Where no more than one of them is a wildcard slot, and what follows it
may not be missing, a path is covered in one way only. -/

namespace UrlRouting
open Slash

def Part.isWild : Part → Bool
  | .slot .wildcard _ => true
  | _ => false

/-- A segment of one part. -/
def Segment.single (p : Part) : Segment := ⟨[p]⟩

namespace Part

variable {parts : List Part} {xs ys : List (List Char)}

/-- No literal among the parts is matched against a slash. -/
def Slashless (parts : List Part) : Prop := ∀ text, .literal text ∈ parts → '/' ∉ Matcher.literalText text

theorem Fits.slashless {p : Part} {x : List Char} (fits : p.Fits x) (tame : p.isWild = false)
    (slashless : Slashless [p]) : '/' ∉ x := by
  match p with
  | .literal text =>
    rw [show x = Matcher.literalText text from fits]
    exact slashless text List.mem_cons_self
  | .slot .simple name => exact fits.2
  | .slot .wildcard name => cases tame

theorem slashless_of_fits (fits : List.Forall₂ Fits parts xs) (tame : ∀ p ∈ parts, p.isWild = false)
    (slashless : Slashless parts) : ∀ x ∈ xs, '/' ∉ x := by
  induction fits with
  | nil => exact nofun
  | cons first _ ih =>
    intro x member
    rcases List.mem_cons.1 member with rfl | member
    · exact first.slashless (tame _ List.mem_cons_self)
        fun text inside => slashless text (List.mem_singleton.1 inside ▸ List.mem_cons_self)
    · exact ih (fun p inside => tame p (List.mem_cons_of_mem _ inside))
        (fun text inside => slashless text (List.mem_cons_of_mem _ inside)) x member

/-- So many texts that fit, one of them perhaps with slashes, are told from their path. -/
theorem eq_of_path_eq (one : parts.countP isWild ≤ 1) (slashless : Slashless parts)
    (fits : List.Forall₂ Fits parts xs) (fits' : List.Forall₂ Fits parts ys)
    (same : path xs = path ys) : xs = ys := by
  induction parts generalizing xs ys with
  | nil =>
    cases fits
    cases fits'
    rfl
  | cons p parts ih =>
    obtain _ | @⟨_, x, _, xs, first, rest⟩ := fits
    obtain _ | @⟨_, y, _, ys, first', rest'⟩ := fits'
    have later : Slashless parts := fun text inside => slashless text (List.mem_cons_of_mem p inside)
    rw [path_cons, path_cons] at same
    have joined := (List.cons.inj same).2
    by_cases wild : p.isWild = true
    · rw [List.countP_cons_of_pos wild] at one
      have tame : ∀ q ∈ parts, q.isWild = false := fun q inside =>
        Bool.eq_false_iff.2 (List.countP_eq_zero.1 (by omega : parts.countP isWild = 0) q inside)
      have count : xs.length = ys.length := by rw [← rest.length_eq, rest'.length_eq]
      obtain ⟨rfl, rfl⟩ := append_path_inj count (slashless_of_fits rest tame later)
        (slashless_of_fits rest' tame later) joined
      rfl
    · rw [List.countP_cons_of_neg wild] at one
      have here : Slashless [p] := fun text inside =>
        slashless text (List.mem_singleton.1 inside ▸ List.mem_cons_self)
      have tame : p.isWild = false := Bool.eq_false_iff.2 wild
      obtain ⟨rfl, after⟩ := append_inj_of_notMem (first.slashless tame here) (first'.slashless tame here)
        (path_boundary xs) (path_boundary ys) joined
      rw [ih one later rest rest' after]

/-- No part that may be missing stands behind a wildcard slot. -/
def Closed (parts : List Part) (least : Nat) : Prop :=
  ∀ before p after, parts = before ++ p :: after → p.isWild = true → after ≠ [] → parts.length ≤ least

theorem length_le_of_path_eq {least : Nat} (closed : Closed parts least) (slashless : Slashless parts)
    (enough : least ≤ xs.length) (fits : List.Forall₂ Fits (parts.take xs.length) xs)
    (fits' : List.Forall₂ Fits (parts.take ys.length) ys) (same : path xs = path ys) :
    ys.length ≤ xs.length := by
  by_contra more
  have total : ys.length ≤ parts.length := by
    have := fits'.length_eq
    rw [List.length_take] at this
    omega
  -- a wildcard among the parts of the shorter list would be followed by one that may be missing
  have tame : ∀ p ∈ parts.take xs.length, p.isWild = false := by
    intro p inside
    obtain ⟨before, after, split⟩ := List.append_of_mem inside
    refine Bool.eq_false_iff.2 fun wild => ?_
    have whole : parts = before ++ p :: (after ++ parts.drop xs.length) := by
      rw [← List.cons_append, ← List.append_assoc, ← split, List.take_append_drop]
    have left : after ++ parts.drop xs.length ≠ [] := by
      have : 0 < (parts.drop xs.length).length := by
        rw [List.length_drop]
        omega
      exact fun none => List.ne_nil_of_length_pos this (List.append_eq_nil_iff.1 none).2
    have := closed before p _ whole wild left
    omega
  have counted := count_path (slashless_of_fits fits tame
    fun text inside => slashless text (List.mem_of_mem_take inside))
  have least_count := length_le_count_path ys
  rw [← same, counted] at least_count
  omega

/-- A path has one division into texts that fit the first parts. -/
theorem texts_unique {least : Nat} (one : parts.countP isWild ≤ 1) (closed : Closed parts least)
    (slashless : Slashless parts) (enough : least ≤ xs.length) (enough' : least ≤ ys.length)
    (fits : List.Forall₂ Fits (parts.take xs.length) xs)
    (fits' : List.Forall₂ Fits (parts.take ys.length) ys) (same : path xs = path ys) : xs = ys := by
  have length : xs.length = ys.length := Nat.le_antisymm
    (length_le_of_path_eq closed slashless enough' fits' fits same.symm)
    (length_le_of_path_eq closed slashless enough fits fits' same)
  rw [← length] at fits'
  refine eq_of_path_eq ?_ (fun text inside => slashless text (List.mem_of_mem_take inside)) fits fits' same
  exact le_trans (List.Sublist.countP_le (List.take_sublist _ _)) one

/-- The slots among the first parts with the texts that a function gives for them. -/
theorem taken_map (parts : List Part) (f : Part → List Char) (k : Nat) :
    taken parts ((parts.take k).map f) =
      (parts.take k).filterMap fun p => p.name?.map fun name => (name, f p) := by
  induction parts generalizing k with
  | nil => cases k <;> rfl
  | cons p parts ih =>
    cases k with
    | zero => cases p <;> rfl
    | succ k =>
      cases p with
      | literal text => exact ih k
      | slot kind name => exact congrArg _ (ih k)

end Part

namespace Segment

theorem forall₂_fits_map_single {parts : List Part} {texts : List (List (List Char))} :
    List.Forall₂ Fits (parts.map single) texts ↔
      ∃ xs, texts = xs.map ([·]) ∧ List.Forall₂ Part.Fits parts xs := by
  induction parts generalizing texts with
  | nil =>
    constructor
    · intro fits
      cases fits
      exact ⟨[], rfl, .nil⟩
    · intro given
      obtain ⟨xs, rfl, fits⟩ := given
      cases fits
      exact .nil
  | cons p parts ih =>
    constructor
    · intro fits
      obtain _ | ⟨first, rest⟩ := fits
      obtain ⟨xs, rfl, more⟩ := ih.1 rest
      obtain _ | ⟨here, nothing⟩ := first
      cases nothing
      exact ⟨_ :: xs, rfl, .cons here more⟩
    · intro given
      obtain ⟨xs, rfl, fits⟩ := given
      obtain _ | ⟨first, rest⟩ := fits
      exact .cons (.cons first .nil) (ih.2 ⟨_, rfl, rest⟩)

theorem laidOut_map_singleton (xs : List (List Char)) : laidOut (xs.map ([·])) = path xs := by
  rw [laidOut, List.flatMap_map, path]
  simp only [List.flatten_cons, List.flatten_nil, List.append_nil]

theorem taken_map_single (parts : List Part) (xs : List (List Char)) :
    taken (parts.map single) (xs.map ([·])) = Part.taken parts xs := by
  induction parts generalizing xs with
  | nil => rfl
  | cons p parts ih =>
    cases xs with
    | nil => cases p <;> rfl
    | cons x xs =>
      have later := ih xs
      cases p with
      | literal text => exact later
      | slot kind name => exact congrArg _ later

theorem covers_map_single {parts : List Part} {least : Nat} {texts : List (List (List Char))}
    {p : List Char} : Covers (parts.map single) least texts p ↔
      ∃ xs, texts = xs.map ([·]) ∧ least ≤ xs.length ∧
        List.Forall₂ Part.Fits (parts.take xs.length) xs ∧
        (p = path xs ∨ least = 0 ∧ p = path xs ++ ['/']) := by
  constructor
  · intro given
    obtain ⟨enough, fits, path_eq⟩ := given
    rw [← List.map_take] at fits
    obtain ⟨xs, rfl, fits⟩ := forall₂_fits_map_single.1 fits
    rw [List.length_map] at enough fits
    rw [laidOut_map_singleton] at path_eq
    exact ⟨xs, rfl, enough, fits, path_eq⟩
  · intro given
    obtain ⟨xs, rfl, enough, fits, path_eq⟩ := given
    refine ⟨by rwa [List.length_map], ?_, by rwa [laidOut_map_singleton]⟩
    rw [List.length_map, ← List.map_take]
    exact forall₂_fits_map_single.2 ⟨xs, rfl, fits⟩

theorem names_map_single (parts : List Part) :
    Pattern.names (parts.map single) = parts.filterMap Part.name? := by
  induction parts with
  | nil => rfl
  | cons p parts ih =>
    cases p with
    | literal text => exact ih
    | slot kind name => exact congrArg _ ih

end Segment

end UrlRouting
