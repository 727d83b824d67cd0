import UrlRouting.Text.CharSet

/-! Tables of character ranges are kept as text. Each number is a run of letters, digits and the
two signs `-` and `_`, five bits a character with the lowest first, and the last character of a
number is one of the first 32. A table of ranges alternates between the gap since the end of the
range before and the length of the range, less one. -/

namespace UrlRouting.Unicode

def digitValue (c : Char) : Nat :=
  let n := c.toNat
  if n = 45 then 62
  else if n = 95 then 63
  else if n < 58 then n - 48
  else if n < 91 then n - 55
  else n - 61

/-- Reads numbers, with the bits of the unfinished number in `acc` and their count in `width`. -/
def numbers (acc width : Nat) : List Char → List Nat
  | [] => []
  | c :: rest =>
    let v := digitValue c
    if v < 32 then (acc + v * 2 ^ width) :: numbers 0 0 rest
    else numbers (acc + (v - 32) * 2 ^ width) (width + 5) rest

/-- Reads alternating gaps and lengths into ranges, the first gap counted from `start`. -/
def rangesFrom (start : Nat) : List Nat → List (Nat × Nat)
  | gap :: length :: rest =>
    (start + gap, start + gap + length) :: rangesFrom (start + gap + length + 1) rest
  | _ => []

def coded (lines : List String) : List Nat := numbers 0 0 (lines.flatMap String.toList)

def unpack (lines : List String) : CharSet := ⟨rangesFrom 0 (coded lines)⟩

def lookupSet? (table : List (String × List String)) (key : String) : Option CharSet :=
  (table.lookup key).map unpack

end UrlRouting.Unicode
