import Mathlib.Data.List.Basic
import UrlRouting.Text.Slash

/-! The pieces between slashes. A text either is one piece or has a first slash, behind which the other
pieces are those of the rest; what holds of all pieces is proved along these cuts. -/

namespace UrlRouting.Slash

variable {s x : List Char}

theorem pieces_slash_cons (s : List Char) : pieces ('/' :: s) = [] :: pieces s := by
  rw [pieces, if_pos rfl]

theorem pieces_append_slash_cons (free : '/' ∉ x) (rest : List Char) :
    pieces (x ++ '/' :: rest) = x :: pieces rest := by
  induction x with
  | nil => exact pieces_slash_cons rest
  | cons c x ih =>
    obtain ⟨first, later⟩ := not_or.1 (List.mem_cons.not.1 free)
    rw [List.cons_append, pieces, if_neg (Ne.symm first), ih later]

theorem pieces_of_notMem (free : '/' ∉ x) : pieces x = [x] := by
  induction x with
  | nil => rfl
  | cons c x ih =>
    obtain ⟨first, later⟩ := not_or.1 (List.mem_cons.not.1 free)
    rw [pieces, if_neg (Ne.symm first), ih later]

/-- Induction on the pieces: from the text behind the first slash to the whole. -/
theorem induction_pieces {motive : List Char → Prop} (last : ∀ x, '/' ∉ x → motive x)
    (cut : ∀ x rest, '/' ∉ x → motive rest → motive (x ++ '/' :: rest)) (s : List Char) : motive s := by
  -- The piece under way is generalized: a character that is no slash joins it.
  have onward (s x : List Char) (free : '/' ∉ x) : motive (x ++ s) := by
    induction s generalizing x with
    | nil => exact (List.append_nil x).symm ▸ last x free
    | cons c s ih =>
      by_cases slash : c = '/'
      · exact slash ▸ cut x s free (ih [] List.not_mem_nil)
      · have longer := ih (x ++ [c]) fun member =>
          (List.mem_append.1 member).elim free fun here => slash (List.mem_singleton.1 here).symm
        rwa [List.append_assoc] at longer
  exact onward s [] List.not_mem_nil

theorem notMem_of_mem_pieces {piece : List Char} (member : piece ∈ pieces s) : '/' ∉ piece := by
  induction s using induction_pieces with
  | last x free =>
    rw [pieces_of_notMem free, List.mem_singleton] at member
    exact member ▸ free
  | cut x rest free ih =>
    rw [pieces_append_slash_cons free] at member
    rcases List.mem_cons.1 member with rfl | later
    · exact free
    · exact ih later

theorem subset_of_mem_pieces {piece : List Char} (member : piece ∈ pieces s) : piece ⊆ s := by
  induction s using induction_pieces with
  | last x free =>
    rw [pieces_of_notMem free, List.mem_singleton] at member
    exact member ▸ List.Subset.refl _
  | cut x rest free ih =>
    rw [pieces_append_slash_cons free] at member
    rcases List.mem_cons.1 member with rfl | later
    · exact List.subset_append_left _ _
    · exact fun c inside => List.mem_append_right _ (List.mem_cons_of_mem _ (ih later inside))

theorem pieces_append_slash (s : List Char) : pieces (s ++ ['/']) = pieces s ++ [[]] := by
  induction s using induction_pieces with
  | last x free => rw [pieces_append_slash_cons free, pieces_of_notMem free]; rfl
  | cut x rest free ih =>
    rw [List.append_assoc, List.cons_append, pieces_append_slash_cons free, pieces_append_slash_cons free, ih]
    rfl

theorem length_pieces (s : List Char) : (pieces s).length = s.count '/' + 1 := by
  induction s using induction_pieces with
  | last x free => rw [pieces_of_notMem free, List.count_eq_zero_of_not_mem free, List.length_singleton]
  | cut x rest free ih =>
    rw [pieces_append_slash_cons free, List.length_cons, ih, List.count_append, List.count_cons_self,
      List.count_eq_zero_of_not_mem free, Nat.zero_add]

/-- Texts put for the characters, with a slash for each slash and none for another, keep to the pieces. -/
theorem pieces_flatMap {f : Char → List Char} (slash : f '/' = ['/']) (free : ∀ c, c ≠ '/' → '/' ∉ f c)
    (s : List Char) : pieces (s.flatMap f) = (pieces s).map (List.flatMap f) := by
  have slashless {x : List Char} (none : '/' ∉ x) : '/' ∉ x.flatMap f := by
    intro inside
    obtain ⟨c, member, among⟩ := List.mem_flatMap.1 inside
    exact free c (fun same => none (same ▸ member)) among
  induction s using induction_pieces with
  | last x none => rw [pieces_of_notMem none, pieces_of_notMem (slashless none), List.map_singleton]
  | cut x rest none ih =>
    rw [List.flatMap_append, List.flatMap_cons, slash, List.singleton_append,
      pieces_append_slash_cons (slashless none), pieces_append_slash_cons none, ih, List.map_cons]

end UrlRouting.Slash
