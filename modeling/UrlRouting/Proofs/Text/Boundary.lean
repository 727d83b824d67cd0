import Mathlib.Data.List.Basic

/-! Where a stretch of characters of one kind ends, with one of another kind behind it or none. -/

namespace UrlRouting

variable {p : Char → Bool} {x y s t : List Char}

/-- A text does not begin with a character of the kind. -/
def Stops (p : Char → Bool) (s : List Char) : Prop := ∀ c, s.head? = some c → p c = false

theorem stops_nil (p : Char → Bool) : Stops p [] := fun _ first => nomatch first

theorem stops_cons {c : Char} (other : p c = false) (s : List Char) : Stops p (c :: s) :=
  fun _ first => Option.some.inj first ▸ other

theorem Stops.takeWhile_eq (stops : Stops p s) : s.takeWhile p = [] := by
  cases s with
  | nil => rfl
  | cons c s => rw [List.takeWhile_cons, stops c rfl, if_neg Bool.false_ne_true]

theorem Stops.dropWhile_eq (stops : Stops p s) : s.dropWhile p = s := by
  cases s with
  | nil => rfl
  | cons c s => rw [List.dropWhile_cons, stops c rfl, if_neg Bool.false_ne_true]

theorem Stops.takeWhile_append (stops : Stops p s) (inside : ∀ c ∈ x, p c = true) :
    (x ++ s).takeWhile p = x := by
  rw [List.takeWhile_append_of_pos inside, stops.takeWhile_eq, List.append_nil]

theorem Stops.dropWhile_append (stops : Stops p s) (inside : ∀ c ∈ x, p c = true) :
    (x ++ s).dropWhile p = s := by
  rw [List.dropWhile_append_of_pos inside, stops.dropWhile_eq]

theorem stops_dropWhile (p : Char → Bool) (s : List Char) : Stops p (s.dropWhile p) := by
  intro c first
  have stopped := List.head?_dropWhile_not p s
  rw [first] at stopped
  simpa using stopped

/-- Where the stretch ends is seen in the text. -/
theorem Stops.append_inj (stops : Stops p s) (stops' : Stops p t) (inside : ∀ c ∈ x, p c = true)
    (inside' : ∀ c ∈ y, p c = true) (same : x ++ s = y ++ t) : x = y ∧ s = t := by
  have first : x = y := by
    rw [← stops.takeWhile_append inside, same, stops'.takeWhile_append inside']
  subst first
  exact ⟨rfl, List.append_cancel_left same⟩

/-- The text before the first place of a character, and the text behind it if it has a place. -/
def cut (c : Char) (s : List Char) : List Char × Option (List Char) :=
  (s.takeWhile (· != c), (s.dropWhile (· != c)).tail?)

theorem cut_append_cons {c : Char} (free : c ∉ x) (rest : List Char) :
    cut c (x ++ c :: rest) = (x, some rest) := by
  have stops : Stops (· != c) (c :: rest) := stops_cons (p := (· != c)) (bne_self_eq_false c) rest
  have inside : ∀ d ∈ x, (d != c) = true := fun d member => bne_iff_ne.2 (ne_of_mem_of_not_mem member free)
  rw [cut, stops.takeWhile_append inside, stops.dropWhile_append inside, List.tail?_cons]

theorem cut_of_notMem {c : Char} (free : c ∉ x) : cut c x = (x, none) := by
  have stops : Stops (· != c) [] := stops_nil _
  have inside : ∀ d ∈ x, (d != c) = true := fun d member => bne_iff_ne.2 (ne_of_mem_of_not_mem member free)
  have before := stops.takeWhile_append inside
  have behind := stops.dropWhile_append inside
  rw [List.append_nil] at before behind
  rw [cut, before, behind, List.tail?_nil]

end UrlRouting
