import UrlRouting.Json.Read
import UrlRouting.Json.Write
import UrlRouting.Proofs.Text.Boundary

/-! Texts and integers as they are written in JSON. A text is read back whatever characters it holds and
whatever follows it; an integer, if nothing follows it that would continue a number. -/

namespace UrlRouting.Json

variable {ds rest : List Char}

theorem hexValue?_lowerHex : ∀ n < 16, Percent.hexValue? (lowerHex n) = some n := by decide

theorem hex4?_of_lt {n : Nat} (small : n < 256) :
    hex4? '0' '0' (lowerHex (n / 16)) (lowerHex (n % 16)) = some n := by
  have zero : Percent.hexValue? '0' = some 0 := by decide
  have high := hexValue?_lowerHex (n / 16) (by omega)
  have low := hexValue?_lowerHex (n % 16) (by omega)
  simp only [hex4?, zero, high, low, Option.bind_eq_bind, Option.bind_some, Option.some.injEq]
  omega

theorem string?_control {c : Char} (control : c.toNat < 32) (rest : List Char) :
    string? ('\\' :: 'u' :: '0' :: '0' :: lowerHex (c.toNat / 16) :: lowerHex (c.toNat % 16) :: rest) =
      (string? rest).map fun p => (c :: p.1, p.2) := by
  have trailing : isTrailing c.toNat = false := by
    simp only [isTrailing, Bool.and_eq_false_iff, decide_eq_false_iff_not]
    omega
  have leading : isLeading c.toNat = false := by
    simp only [isLeading, Bool.and_eq_false_iff, decide_eq_false_iff_not]
    omega
  rw [string?]
  simp only [hex4?_of_lt (n := c.toNat) (by omega), trailing, leading]
  rw [Char.ofNat_toNat]
  rfl

theorem string?_plain {c : Char} (quote : c ≠ '"') (backslash : c ≠ '\\') (printed : 32 ≤ c.toNat)
    (rest : List Char) : string? (c :: rest) = (string? rest).map fun p => (c :: p.1, p.2) := by
  have kept : (decide (c.toNat < 32) || c == '\\') = false := by
    simp only [Bool.or_eq_false_iff, decide_eq_false_iff_not, beq_eq_false_iff_ne]
    exact ⟨by omega, backslash⟩
  rw [string?]
  · rw [kept]
    rfl
  · exact quote
  · exact fun _ _ _ _ _ same _ => backslash same
  · exact fun _ _ same _ => backslash same

theorem string?_writeChar (c : Char) (rest : List Char) :
    string? (writeChar c ++ rest) = (string? rest).map fun p => (c :: p.1, p.2) := by
  unfold writeChar
  split
  case h_8 quote backslash _ _ _ _ _ =>
    split
    next control => exact string?_control control rest
    next printed => exact string?_plain quote backslash (by omega) rest
  all_goals rfl

theorem string?_flatMap_writeChar (s rest : List Char) :
    string? (s.flatMap writeChar ++ '"' :: rest) = some (s, rest) := by
  induction s with
  | nil => rfl
  | cons c s ih =>
    rw [List.flatMap_cons, List.append_assoc, string?_writeChar, ih]
    rfl

/-- Whether a character behind a whole number would make it longer or another number. -/
def continuesNumber (c : Char) : Bool := isDigit c || c == '.' || c == 'e' || c == 'E'

theorem Stops.digit (stops : Stops continuesNumber rest) : Stops isDigit rest := by
  intro c first
  have other := stops c first
  simp only [continuesNumber, Bool.or_eq_false_iff] at other
  exact other.1.1.1

theorem fraction?_of_stops (stops : Stops continuesNumber rest) : fraction? rest = some (false, rest) := by
  unfold fraction?
  split
  next => exact absurd (stops '.' rfl) (by decide)
  next => rfl

theorem exponent?_of_stops (stops : Stops continuesNumber rest) : exponent? rest = some (false, rest) := by
  unfold exponent?
  split
  next => exact absurd (stops 'e' rfl) (by decide)
  next => exact absurd (stops 'E' rfl) (by decide)
  next => rfl

theorem whole?_append (inside : ∀ c ∈ ds, isDigit c = true) (present : ds ≠ [])
    (led : ds = ['0'] ∨ ds.head? ≠ some '0') (stops : Stops isDigit rest) :
    whole? (ds ++ rest) = some (ds, rest) := by
  unfold whole? digits
  rw [stops.takeWhile_append inside, stops.dropWhile_append inside]
  rcases led with rfl | led
  · rfl
  · split
    next same => exact absurd (Prod.mk.inj same).1 present
    next same => exact absurd (congrArg List.head? (Prod.mk.inj same).1) led
    next same => exact absurd (congrArg List.head? (Prod.mk.inj same).1) led
    next same => rw [same]

theorem isDigit_of_mem_toDigits {n : Nat} {c : Char} (member : c ∈ Nat.toDigits 10 n) : isDigit c = true :=
  Nat.isDigit_of_mem_toDigits (by decide) (by decide) member

theorem natural_toDigits (n : Nat) : natural (Nat.toDigits 10 n) = n := by
  have folded : Nat.ofDigitChars 10 (Nat.toDigits 10 n) 0 = _ := Nat.ofDigitChars_eq_foldl
  rw [Nat.ofDigitChars_ten_toDigits] at folded
  conv_rhs => rw [folded]
  simp only [natural, Nat.mul_comm]
  rfl

theorem head?_toDigits {n : Nat} (positive : 0 < n) : (Nat.toDigits 10 n).head? ≠ some '0' := by
  induction n using Nat.strongRecOn with
  | ind n ih =>
    by_cases small : n < 10
    · have nonzero : ∀ m < 10, 0 < m → [Nat.digitChar m].head? ≠ some '0' := by decide
      rw [Nat.toDigits_of_lt_base small]
      exact nonzero n small positive
    · rw [Nat.toDigits_of_base_le (by decide) (by omega), List.head?_append_of_ne_nil _ Nat.toDigits_ne_nil]
      exact ih (n / 10) (by omega) (by omega)

theorem whole?_toDigits (n : Nat) (stops : Stops isDigit rest) :
    whole? (Nat.toDigits 10 n ++ rest) = some (Nat.toDigits 10 n, rest) := by
  refine whole?_append (fun c member => isDigit_of_mem_toDigits member) Nat.toDigits_ne_nil ?_ stops
  rcases Nat.eq_zero_or_pos n with rfl | positive
  · exact .inl (Nat.toDigits_zero 10)
  · exact .inr (head?_toDigits positive)

theorem exists_head?_toDigits (n : Nat) : ∃ c more, Nat.toDigits 10 n = c :: more ∧ isDigit c = true := by
  obtain ⟨c, more, split⟩ := List.exists_cons_of_ne_nil (Nat.toDigits_ne_nil (b := 10) (n := n))
  exact ⟨c, more, split, isDigit_of_mem_toDigits (split ▸ List.mem_cons_self)⟩

theorem number?_natural (n : Nat) (stops : Stops continuesNumber rest) :
    number? (Nat.toDigits 10 n ++ rest) = some (Document.intScalar n, rest) := by
  obtain ⟨c, more, split, digit⟩ := exists_head?_toDigits n
  have unsigned : c ≠ '-' := by
    rintro rfl
    cases digit
  have whole := whole?_toDigits n (Stops.digit stops)
  have value := natural_toDigits n
  rw [split] at whole value ⊢
  rw [List.cons_append] at whole ⊢
  simp [number?, unsigned, whole, value, fraction?_of_stops stops, exponent?_of_stops stops]

theorem number?_negated {n : Nat} (positive : 0 < n) (stops : Stops continuesNumber rest) :
    number? ('-' :: (Nat.toDigits 10 n ++ rest)) = some (Document.intScalar (-n), rest) := by
  have nonzero : (n == 0) = false := beq_eq_false_iff_ne.2 (by omega)
  simp only [number?, whole?_toDigits n (Stops.digit stops), fraction?_of_stops stops,
    exponent?_of_stops stops, natural_toDigits, Option.bind_eq_bind, Option.bind_some, nonzero]
  rfl

theorem intScalar_toInt (i : Int64) : Document.intScalar i.toInt = .int i := by
  have least := i.le_toInt
  have most := i.toInt_lt
  rw [Document.intScalar, if_pos (by omega), Int64.ofInt_toInt]

/-- An integer is read back, the least and the greatest included. -/
theorem number?_toString (i : Int64) (stops : Stops continuesNumber rest) :
    number? ((toString i.toInt).toList ++ rest) = some (.int i, rest) := by
  rw [← intScalar_toInt, Int.toString_eq_repr]
  cases i.toInt with
  | ofNat n =>
    rw [Int.repr, Nat.toList_repr]
    exact number?_natural n stops
  | negSucc n =>
    rw [Int.repr, String.toList_append, Nat.toList_repr]
    exact number?_negated n.succ_pos stops

end UrlRouting.Json
