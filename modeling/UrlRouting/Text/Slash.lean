/-! Text divided by slashes. -/

namespace UrlRouting.Slash

def trim (s : List Char) : List Char :=
  ((s.dropWhile (· == '/')).reverse.dropWhile (· == '/')).reverse

/-- The pieces between slashes, at least one. -/
def pieces : List Char → List (List Char)
  | [] => [[]]
  | c :: rest =>
    if c = '/' then [] :: pieces rest
    else
      match pieces rest with
      | piece :: others => (c :: piece) :: others
      | [] => [[c]]

def join : List (List Char) → List Char
  | [] => []
  | [piece] => piece
  | piece :: rest => piece ++ '/' :: join rest

def rooted (s : List Char) : List Char := '/' :: trim s

theorem pieces_ne_nil (s : List Char) : pieces s ≠ [] := by
  induction s with
  | nil => simp [pieces]
  | cons c rest ih =>
    unfold pieces
    split
    · simp
    · split <;> simp

theorem join_pieces (s : List Char) : join (pieces s) = s := by
  induction s with
  | nil => rfl
  | cons c rest ih =>
    obtain ⟨piece, others, parts⟩ := List.exists_cons_of_ne_nil (pieces_ne_nil rest)
    rw [parts] at ih
    unfold pieces
    split
    next slash => simp [parts, slash, join, ih]
    next => cases others <;> simp_all [join]

end UrlRouting.Slash
