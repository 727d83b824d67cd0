import UrlRouting.Text.CharSet

/-! Sets of characters as sequences of byte ranges in UTF-8: each sequence stands for the encodings
whose bytes lie in its ranges one by one. -/

namespace UrlRouting.ByteRange

def encode (n : Nat) : List Nat :=
  if n < 0x80 then [n]
  else if n < 0x800 then [0xC0 + n / 64, 0x80 + n % 64]
  else if n < 0x10000 then [0xE0 + n / 4096, 0x80 + n / 64 % 64, 0x80 + n % 64]
  else [0xF0 + n / 262144, 0x80 + n / 4096 % 64, 0x80 + n / 64 % 64, 0x80 + n % 64]

/-- A point at which a range of code points has to be cut so that each part is one sequence: the
last code point of the lower part. -/
def cut? (lo hi : Nat) : Option Nat :=
  let lengths := [0x7F, 0x7FF, 0xD7FF, 0xDFFF, 0xFFFF].find? fun last =>
    decide (lo ≤ last) && decide (last < hi)
  match lengths with
  | some last => some last
  | none =>
    if hi ≤ 0x7F then none
    else [64, 4096, 262144].findSome? fun block =>
      if lo / block = hi / block then none
      else if lo % block ≠ 0 then some ((lo / block + 1) * block - 1)
      else if hi % block ≠ block - 1 then some (hi / block * block - 1)
      else none

/-- The sequences of a range of code points, in order. A range needs few cuts, so a small bound on
their depth is enough. -/
def sequences : Nat → Nat → Nat → List (List (Nat × Nat))
  | 0, _, _ => []
  | depth + 1, lo, hi =>
    if hi < lo ∨ (0xD800 ≤ lo ∧ hi ≤ 0xDFFF) then []
    else
      match cut? lo hi with
      | some last => sequences depth lo last ++ sequences depth (last + 1) hi
      | none => [(encode lo).zip (encode hi)]

def ofSet (s : CharSet) : List (List (Nat × Nat)) :=
  s.ranges.flatMap fun r => sequences 24 r.1 r.2

end UrlRouting.ByteRange
