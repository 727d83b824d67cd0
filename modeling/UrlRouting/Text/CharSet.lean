/-! Sets of characters, held as ranges of code points. The ranges of a set made by `ofRanges` are
in order, apart from one another and not adjacent, which makes complements immediate. -/

namespace UrlRouting

/-- A set of characters: those whose code point lies in one of the ranges, ends included. -/
structure CharSet where
  ranges : List (Nat × Nat)
deriving DecidableEq, Repr, Inhabited

namespace CharSet

def contains (s : CharSet) (c : Char) : Bool :=
  s.ranges.any fun r => decide (r.1 ≤ c.toNat) && decide (c.toNat ≤ r.2)

def empty : CharSet := ⟨[]⟩

def all : CharSet := ⟨[(0, 0x10FFFF)]⟩

def single (c : Char) : CharSet := ⟨[(c.toNat, c.toNat)]⟩

def except (c : Char) : CharSet :=
  if c.toNat = 0 then ⟨[(1, 0x10FFFF)]⟩ else ⟨[(0, c.toNat - 1), (c.toNat + 1, 0x10FFFF)]⟩

def absorb (lo hi : Nat) : List (Nat × Nat) → List (Nat × Nat)
  | [] => [(lo, hi)]
  | r :: rest => if r.1 ≤ hi + 1 then absorb lo (max hi r.2) rest else (lo, hi) :: r :: rest

def merge : List (Nat × Nat) → List (Nat × Nat)
  | [] => []
  | r :: rest => absorb r.1 r.2 (merge rest)

/-- The set covered by the ranges given, in any order; a range that ends before it begins is
empty. -/
def ofRanges (rs : List (Nat × Nat)) : CharSet :=
  ⟨merge ((rs.filter fun r => decide (r.1 ≤ r.2)).mergeSort fun a b => decide (a.1 ≤ b.1))⟩

def gaps (lo : Nat) : List (Nat × Nat) → List (Nat × Nat)
  | [] => if lo ≤ 0x10FFFF then [(lo, 0x10FFFF)] else []
  | r :: rest => if lo < r.1 then (lo, r.1 - 1) :: gaps (r.2 + 1) rest else gaps (r.2 + 1) rest

def union (s t : CharSet) : CharSet := ofRanges (s.ranges ++ t.ranges)

def compl (s : CharSet) : CharSet := ⟨gaps 0 (ofRanges s.ranges).ranges⟩

def inter (s t : CharSet) : CharSet := (s.compl.union t.compl).compl

def diff (s t : CharSet) : CharSet := s.inter t.compl

def symmDiff (s t : CharSet) : CharSet := (s.diff t).union (t.diff s)

def isAscii (s : CharSet) : Bool := s.ranges.all fun r => decide (r.2 < 128)

theorem contains_single (c d : Char) : (single c).contains d = decide (c = d) := by
  simp only [single, contains, List.any_cons, List.any_nil, Bool.or_false]
  by_cases h : c = d
  · simp [h]
  · have distinct : c.toNat ≠ d.toNat := fun same => h (Char.toNat_inj.1 same)
    simp only [h, decide_false, Bool.and_eq_false_iff, decide_eq_false_iff_not]
    omega

theorem contains_except (c d : Char) : (except c).contains d = !decide (d = c) := by
  have bound : d.toNat ≤ 0x10FFFF := by
    have := d.valid
    simp only [UInt32.isValidChar, Nat.isValidChar] at this
    change d.val.toNat ≤ _
    omega
  by_cases h : d = c
  · subst h
    unfold except contains
    split <;> simp_all
    omega
  · have distinct : d.toNat ≠ c.toNat := fun same => h (Char.toNat_inj.1 same)
    unfold except contains
    split <;> simp_all <;> omega

end CharSet

end UrlRouting
