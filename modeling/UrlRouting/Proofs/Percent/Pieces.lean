import UrlRouting.Proofs.Percent.Octets
import UrlRouting.Proofs.Text.Pieces

/-! Decoding and the pieces of a path. No escape reaches over a slash and none is decoded to one, so the
pieces of a decoded path are the pieces of the path, each decoded by itself. -/

namespace UrlRouting.Percent
open Slash

variable {x y raw : List Char} {c : Char}

/-- No escape reaches over a character that is no hexadecimal digit. -/
theorem atoms_append_cons (digitless : hexValue? c = none) (x rest : List Char) :
    atoms (x ++ c :: rest) = atoms x ++ atoms (c :: rest) := by
  fun_induction atoms x with
  | case1 => rfl
  | case2 h l tail atom escape ih =>
    rw [List.cons_append, List.cons_append, List.cons_append, atoms, escape, ih]
    rfl
  | case3 h l tail plain ih =>
    rw [List.cons_append, List.cons_append, List.cons_append, atoms, plain, ← List.cons_append,
      ← List.cons_append, ih]
    rfl
  | case4 a tail other ih =>
    have whole : atoms (a :: (tail ++ c :: rest)) = .char a :: atoms (tail ++ c :: rest) := by
      by_cases percent : a = '%'
      · subst percent
        -- A percent sign with less than two characters behind it needs the character or what follows it.
        rcases tail with _ | ⟨h, _ | ⟨l, tail⟩⟩
        · cases rest with
          | nil => rfl
          | cons d rest => simp only [List.nil_append, atoms, escapeAtom?_eq_none (.inl digitless)]
        · simp only [List.cons_append, List.nil_append, atoms, escapeAtom?_eq_none (.inr digitless)]
        · exact (other h l tail rfl rfl).elim
      · exact atoms_cons percent _
    rw [List.cons_append, whole, ih]
    rfl

theorem atoms_append_slash (x y : List Char) :
    atoms (plusAsBlank (x ++ '/' :: y)) = atoms (plusAsBlank x) ++ .char '/' :: atoms (plusAsBlank y) := by
  have spaced : plusAsBlank (x ++ '/' :: y) = plusAsBlank x ++ '/' :: plusAsBlank y := List.map_append
  rw [spaced, atoms_append_cons (by decide), atoms_cons (by decide)]

theorem octets_append_slash (x y : List Char) : octets (x ++ '/' :: y) = octets x ++ 0x2F :: octets y := by
  rw [octets_eq, octets_eq, octets_eq, atoms_append_slash, List.flatMap_append, List.flatMap_cons]
  rfl

theorem valid_append_slash_iff :
    Valid (octets (x ++ '/' :: y)) ↔ Valid (octets x) ∧ Valid (octets y) := by
  rw [octets_append_slash]
  exact exists_encoded_iff (by decide) _ _

theorem unescape_append_slash (valid : Valid (octets (x ++ '/' :: y))) :
    unescape (x ++ '/' :: y) = unescape x ++ '/' :: unescape y := by
  obtain ⟨front, back⟩ := valid_append_slash_iff.1 valid
  have slash : encoded ('/' :: unescape y) = 0x2F :: encoded (unescape y) := rfl
  rw [← encoded_inj, encoded_append, slash, encoded_unescape valid, encoded_unescape front,
    encoded_unescape back, written, atoms_append_slash, List.flatMap_append, List.flatMap_cons]
  rfl

theorem mem_atoms {s : List Char} {a : Atom} (member : a ∈ atoms s) :
    (∃ c ∈ s, a = .char c) ∨ ∃ b, a = Atom.ofByte b := by
  have widen {x y : List Char} (within : x ⊆ y) (either : (∃ c ∈ x, a = .char c) ∨ ∃ b, a = Atom.ofByte b) :
      (∃ c ∈ y, a = .char c) ∨ ∃ b, a = Atom.ofByte b := by
    rcases either with ⟨c, inside, same⟩ | byte
    · exact .inl ⟨c, within inside, same⟩
    · exact .inr byte
  fun_induction atoms s with
  | case1 => cases member
  | case2 h l rest atom escape ih =>
    rcases List.mem_cons.1 member with rfl | later
    · exact .inr (exists_ofByte escape)
    · exact widen (List.suffix_append ['%', h, l] rest).subset (ih later)
  | case3 h l rest _ ih =>
    rcases List.mem_cons.1 member with rfl | later
    · exact .inl ⟨'%', List.mem_cons_self, rfl⟩
    · exact widen (List.subset_cons_self '%' _) (ih later)
  | case4 c rest _ ih =>
    rcases List.mem_cons.1 member with rfl | later
    · exact .inl ⟨c, List.mem_cons_self, rfl⟩
    · exact widen (List.subset_cons_self c rest) (ih later)

theorem slash_notMem_written_ofByte (b : UInt8) : 0x2F ∉ (Atom.ofByte b).written := by
  unfold Atom.ofByte
  split
  next => decide
  next slash =>
    split
    next => decide
    next => simpa [Atom.written, eq_comm] using slash

theorem slash_notMem_unescape (free : '/' ∉ x) : '/' ∉ unescape x := by
  by_cases valid : Valid (octets x)
  · intro inside
    have byte : 0x2F ∈ encoded (unescape x) := List.mem_flatMap.2 ⟨'/', inside, by decide⟩
    rw [encoded_unescape valid] at byte
    obtain ⟨a, among, here⟩ := List.mem_flatMap.1 byte
    rcases mem_atoms among with ⟨c, member, rfl⟩ | ⟨b, rfl⟩
    · obtain ⟨front, back, split⟩ := List.append_of_mem here
      obtain ⟨_, _, rfl⟩ := utf8EncodeChar_eq_append (by decide) split
      obtain ⟨d, own, same⟩ := List.mem_map.1 member
      split at same
      · cases same
      · exact free (same ▸ own)
    · exact slash_notMem_written_ofByte b here
  · rwa [unescape_of_not_valid valid]

theorem pieces_unescape_of_valid (valid : Valid (octets raw)) :
    pieces (unescape raw) = (pieces raw).map unescape := by
  induction raw using induction_pieces with
  | last x free => rw [pieces_of_notMem free, pieces_of_notMem (slash_notMem_unescape free), List.map_singleton]
  | cut x rest free ih =>
    rw [unescape_append_slash valid, pieces_append_slash_cons free,
      pieces_append_slash_cons (slash_notMem_unescape free), ih (valid_append_slash_iff.1 valid).2, List.map_cons]

/-- Decoding keeps the number of slashes. The pieces between them are decoded each by itself, unless the
path as a whole is no text; then it is left as it is. -/
theorem pieces_unescape (raw : List Char) :
    (unescape raw).count '/' = raw.count '/' ∧
      (Valid (octets raw) → pieces (unescape raw) = (pieces raw).map unescape) ∧
      (¬Valid (octets raw) → unescape raw = raw) := by
  refine ⟨?_, pieces_unescape_of_valid, unescape_of_not_valid⟩
  by_cases valid : Valid (octets raw)
  · have lengths := congrArg List.length (pieces_unescape_of_valid valid)
    rw [List.length_map, length_pieces, length_pieces] at lengths
    exact Nat.succ.inj lengths
  · rw [unescape_of_not_valid valid]

/-- Escapes of the slash, and percent signs before a slash, do not move the cuts. -/
theorem pieces_unescape_stray :
    Valid (octets "/%2/F%2f+%/é%C3%A9".toList) ∧
      pieces (unescape "/%2/F%2f+%/é%C3%A9".toList) = ["", "%2", "F%2F %", "éé"].map String.toList ∧
      ¬Valid (octets "a%C3/%A9".toList) ∧ unescape "a%C3/%A9".toList = "a%C3/%A9".toList := by
  have valid : Valid (octets "/%2/F%2f+%/é%C3%A9".toList) := ⟨"/%2/F/ %/éé".toList, by decide +kernel⟩
  have invalid : ¬Valid (octets "a%C3/%A9".toList) := by
    rw [← isSome_resolve?_atoms]
    decide +kernel
  obtain ⟨_, divided, _⟩ := pieces_unescape "/%2/F%2f+%/é%C3%A9".toList
  obtain ⟨_, _, kept⟩ := pieces_unescape "a%C3/%A9".toList
  exact ⟨valid, (divided valid).trans (by decide +kernel), invalid, kept invalid⟩

end UrlRouting.Percent
