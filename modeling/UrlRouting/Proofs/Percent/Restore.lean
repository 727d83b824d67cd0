import UrlRouting.Proofs.Percent.Encode
import UrlRouting.Proofs.Percent.Octets

/-! Restoring after decoding, and the one decoding of all escapes that both together are meant to be. What is
restored is whatever looks like a reserved escape in the decoded text, also one that was none before: a
percent sign with the digits behind it decoded. Apart from these, the two steps make one decoding. -/

namespace UrlRouting.Percent

variable {raw rest s : List Char} {b : UInt8}

/-- Where a byte stands that is a character by itself and none of the reserved ones, it stands in the decoded
text as well. -/
theorem exists_behind {more : List UInt8} (small : b.toNat < 128) (free : b ≠ 0x2F ∧ b ≠ 0x25)
    (ahead : octets raw = b :: more ∨ written raw = b :: more) :
    ∃ rest, rest.length < raw.length ∧ octets raw = b :: octets rest ∧ written raw = b :: written rest := by
  cases begins raw with
  | nil => rcases ahead with same | same <;> cases same
  | @escape b' x escape rest =>
    rw [octets_escape escape, written_escape escape] at ahead ⊢
    have same : b' = b := by
      rcases ahead with same | same
      · exact (List.cons.inj same).1
      · unfold Atom.ofByte at same
        split at same
        next => exact (free.2 (List.cons.inj same).1.symm).elim
        next =>
          split at same
          next => exact (free.2 (List.cons.inj same).1.symm).elim
          next => exact (List.cons.inj same).1
    subst same
    have shorter : 0 < x.length := List.length_pos_iff.2 (escape_ne_nil escape)
    refine ⟨rest, by rw [List.length_append]; omega, rfl, ?_⟩
    rw [Atom.ofByte, if_neg free.1, if_neg free.2]
    rfl
  | lone lone =>
    rw [octets_lone lone, written_lone lone] at ahead
    rcases ahead with same | same <;> exact (free.2 (List.cons.inj same).1.symm).elim
  | @char c plain rest =>
    rw [octets_cons plain, written_cons plain] at ahead ⊢
    obtain ⟨d, others, bytes⟩ := List.exists_cons_of_ne_nil (utf8EncodeChar_ne_nil (blanked c))
    have same : d = b := by
      rw [bytes] at ahead
      rcases ahead with same | same <;> exact (List.cons.inj same).1
    subst same
    obtain rfl : others = [] := by
      rw [← List.nil_append (d :: others)] at bytes
      exact (utf8EncodeChar_eq_append small bytes).2.1
    exact ⟨rest, Nat.lt_succ_self _, by rw [bytes]; rfl, by rw [bytes]; rfl⟩

/-- The last digits of the escapes that are restored. -/
def lastDigits : List Char := ['F', 'f', '5']

theorem mem_lastDigits {d : Char} : d ∈ lastDigits ↔ d = 'F' ∨ d = 'f' ∨ d = '5' := by
  simp only [lastDigits, List.mem_cons, List.not_mem_nil, or_false]

theorem ascii_of_mem_lastDigits {d : Char} (digit : d ∈ lastDigits) :
    ∃ e : UInt8, String.utf8EncodeChar d = [e] ∧ e.toNat < 128 ∧ e ≠ 0x2F ∧ e ≠ 0x25 := by
  rcases mem_lastDigits.1 digit with rfl | rfl | rfl
  · exact ⟨0x46, by decide⟩
  · exact ⟨0x66, by decide⟩
  · exact ⟨0x35, by decide⟩

theorem digits_lt {d : Char} (digit : d ∈ lastDigits) : ∀ c ∈ ['2', d], c.toNat < 128 := by
  have last : d.toNat < 128 := by
    rcases mem_lastDigits.1 digit with rfl | rfl | rfl <;> decide
  exact List.forall_mem_cons.2 ⟨by decide, List.forall_mem_singleton.2 last⟩

theorem length_encoded_digits {d : Char} (digit : d ∈ lastDigits) : (encoded ['2', d]).length = 2 := by
  rcases mem_lastDigits.1 digit with rfl | rfl | rfl <;> rfl

theorem exists_behind_digits {d : Char} (digit : d ∈ lastDigits)
    (ahead : encoded ['2', d] <+: octets raw ∨ encoded ['2', d] <+: written raw) :
    ∃ rest, rest.length < raw.length ∧ octets raw = encoded ['2', d] ++ octets rest ∧
      written raw = encoded ['2', d] ++ written rest := by
  obtain ⟨e, byte, small, free⟩ := ascii_of_mem_lastDigits digit
  have bytes : encoded ['2', d] = [0x32, e] := by
    rw [encoded, List.flatMap_cons, List.flatMap_singleton, byte]
    rfl
  rw [bytes] at ahead ⊢
  have first : ∃ more, octets raw = 0x32 :: e :: more ∨ written raw = 0x32 :: e :: more := by
    rcases ahead with ⟨more, same⟩ | ⟨more, same⟩
    · exact ⟨more, .inl same.symm⟩
    · exact ⟨more, .inr same.symm⟩
  obtain ⟨more, first⟩ := first
  obtain ⟨behind, shorter, front, front'⟩ := exists_behind (by decide) (by decide) first
  rw [front, front'] at first
  obtain ⟨rest, shorter', back, back'⟩ :=
    exists_behind small free (first.imp (fun same => (List.cons.inj same).2) fun same => (List.cons.inj same).2)
  exact ⟨rest, Nat.lt_trans shorter' shorter, by rw [front, back]; rfl, by rw [front', back']; rfl⟩

theorem exists_escape_digits {d : Char} (digit : d ∈ lastDigits) : ∃ b, Escape b ['%', '2', d] := by
  rcases mem_lastDigits.1 digit with rfl | rfl | rfl
  · exact ⟨_, '2', 'F', 2, 15, rfl, rfl, rfl, rfl⟩
  · exact ⟨_, '2', 'f', 2, 15, rfl, rfl, rfl, rfl⟩
  · exact ⟨_, '2', '5', 2, 5, rfl, rfl, rfl, rfl⟩

/-- The digits of a reserved escape come out of the decoding of the text, and do not stand in it. -/
def Conceals (rest : List Char) : Prop :=
  ∃ d ∈ lastDigits, encoded ['2', d] <+: octets rest ∧ ¬['2', d] <+: rest

/-- Behind a percent sign the digits of a reserved escape are concealed. -/
def Assembles (raw : List Char) : Prop := ∃ rest, '%' :: rest <:+ raw ∧ Conceals rest

theorem not_assembles_nil : ¬Assembles [] := by
  rintro ⟨rest, ahead, _⟩
  cases List.suffix_nil.1 ahead

theorem assembles_cons {c : Char} : Assembles (c :: rest) ↔ c = '%' ∧ Conceals rest ∨ Assembles rest := by
  constructor
  · rintro ⟨behind, suffix, conceals⟩
    rcases List.suffix_cons_iff.1 suffix with same | later
    · obtain ⟨rfl, rfl⟩ := List.cons.inj same
      exact .inl ⟨rfl, conceals⟩
    · exact .inr ⟨behind, later, conceals⟩
  · rintro (⟨rfl, conceals⟩ | ⟨behind, suffix, conceals⟩)
    · exact ⟨rest, List.suffix_refl _, conceals⟩
    · exact ⟨behind, suffix.trans (List.suffix_cons c rest), conceals⟩

theorem assembles_cons_of_ne {c : Char} (plain : c ≠ '%') : Assembles (c :: rest) ↔ Assembles rest := by
  rw [assembles_cons, or_iff_right fun both => plain both.1]

theorem ne_percent_of_hexValue? {c : Char} {n : Nat} (value : hexValue? c = some n) : c ≠ '%' := by
  rintro rfl
  cases value

theorem length_encoded_hexDigit {c : Char} {n : Nat} (value : hexValue? c = some n) :
    (String.utf8EncodeChar c).length = 1 := by
  have code := hexValue?_eq_some value
  rw [utf8EncodeChar_of_lt (by omega)]
  rfl

/-- The digits of an escape conceal none: they stand for themselves. -/
theorem not_conceals_digits {h l : Char} {high low : Nat} (first : hexValue? h = some high)
    (second : hexValue? l = some low) (rest : List Char) : ¬Conceals (h :: l :: rest) := by
  rintro ⟨d, digit, ahead, apart⟩
  have shown : encoded [h, l] <+: octets (h :: l :: rest) := by
    rw [octets_cons (ne_percent_of_hexValue? first), octets_cons (ne_percent_of_hexValue? second),
      blanked_of_hexValue? first, blanked_of_hexValue? second, ← List.append_assoc]
    exact ⟨octets rest, by simp [encoded]⟩
  have lengths : (encoded ['2', d]).length = (encoded [h, l]).length := by
    rw [length_encoded_digits digit, encoded, List.flatMap_cons, List.flatMap_singleton, List.length_append,
      length_encoded_hexDigit first, length_encoded_hexDigit second]
  have same := encoded_inj.1 ((List.prefix_of_prefix_length_le ahead shown (Nat.le_of_eq lengths)).eq_of_length lengths)
  exact apart ⟨rest, by rw [same]; rfl⟩

theorem assembles_escape {x : List Char} (escape : Escape b x) : Assembles (x ++ rest) ↔ Assembles rest := by
  obtain ⟨h, l, high, low, first, second, rfl, rfl⟩ := escape
  change Assembles ('%' :: h :: l :: rest) ↔ _
  rw [assembles_cons, or_iff_right fun both => not_conceals_digits first second rest both.2,
    assembles_cons_of_ne (ne_percent_of_hexValue? first), assembles_cons_of_ne (ne_percent_of_hexValue? second)]

def restoreBytes : List UInt8 → List UInt8
  | a :: b :: c :: rest =>
    if a = 0x25 ∧ b = 0x32 ∧ (c = 0x46 ∨ c = 0x66) then 0x2F :: restoreBytes rest
    else if a = 0x25 ∧ b = 0x32 ∧ c = 0x35 then 0x25 :: restoreBytes rest
    else a :: restoreBytes (b :: c :: rest)
  | bytes => bytes

theorem restoreBytes_cons (plain : b ≠ 0x25) (bytes : List UInt8) :
    restoreBytes (b :: bytes) = b :: restoreBytes bytes := by
  rcases bytes with _ | ⟨_, _ | ⟨_, _⟩⟩
  · rfl
  · rfl
  · rw [restoreBytes, if_neg fun given => plain given.1, if_neg fun given => plain given.1]

theorem restoreBytes_append {x : List UInt8} (plain : 0x25 ∉ x) (bytes : List UInt8) :
    restoreBytes (x ++ bytes) = x ++ restoreBytes bytes := by
  induction x with
  | nil => rfl
  | cons a x ih =>
    obtain ⟨first, later⟩ := not_or.1 (List.mem_cons.not.1 plain)
    rw [List.cons_append, restoreBytes_cons (Ne.symm first), ih later]
    rfl

/-- What the digits restore. -/
def restored (d : Char) : Char := if d = '5' then '%' else '/'

theorem length_encoded_restored (d : Char) : (encoded [restored d]).length = 1 := by
  unfold restored
  split <;> rfl

theorem restoreBytes_digits {d : Char} (digit : d ∈ lastDigits) (bytes : List UInt8) :
    restoreBytes (0x25 :: (encoded ['2', d] ++ bytes)) = encoded [restored d] ++ restoreBytes bytes := by
  rcases mem_lastDigits.1 digit with rfl | rfl | rfl <;> rfl

theorem restore_digits {d : Char} (digit : d ∈ lastDigits) (rest : List Char) :
    restore ('%' :: '2' :: d :: rest) = restored d :: restore rest := by
  rcases mem_lastDigits.1 digit with rfl | rfl | rfl <;> rfl

theorem restoreBytes_percent {bytes : List UInt8} (apart : ∀ d ∈ lastDigits, ¬encoded ['2', d] <+: bytes) :
    restoreBytes (0x25 :: bytes) = 0x25 :: restoreBytes bytes := by
  rcases bytes with _ | ⟨b, _ | ⟨c, bytes⟩⟩
  · rfl
  · rfl
  · have other (d : Char) (digit : d ∈ lastDigits) (e : UInt8) (same : encoded ['2', d] = [0x32, e]) :
        ¬(b = 0x32 ∧ c = e) := by
      rintro ⟨rfl, rfl⟩
      exact apart d digit (same ▸ ⟨bytes, rfl⟩)
    have upper := other 'F' (by decide) 0x46 (by decide)
    have lower := other 'f' (by decide) 0x66 (by decide)
    have five := other '5' (by decide) 0x35 (by decide)
    rw [restoreBytes, if_neg, if_neg]
    · exact fun given => five given.2
    · exact fun given => given.2.2.elim (fun same => upper ⟨given.2.1, same⟩) fun same => lower ⟨given.2.1, same⟩

theorem restore_percent (apart : ∀ d ∈ lastDigits, ¬['2', d] <+: rest) :
    restore ('%' :: rest) = '%' :: restore rest := by
  rcases rest with _ | ⟨b, _ | ⟨c, rest⟩⟩
  · rfl
  · simp [restore]
  · by_cases same : b = '2'
    · subst same
      have other (d : Char) (digit : d ∈ lastDigits) : c ≠ d := by
        rintro rfl
        exact apart c digit ⟨rest, rfl⟩
      rw [restore, if_neg, if_neg (other '5' (by decide))]
      exact fun either => either.elim (other 'F' (by decide)) (other 'f' (by decide))
    · simp [restore, same]

/-- Restoring does not tear characters apart. -/
theorem encoded_restore (s : List Char) : encoded (restore s) = restoreBytes (encoded s) := by
  induction count : s.length using Nat.strongRecOn generalizing s with
  | ind n ih =>
    subst count
    rcases s with _ | ⟨c, rest⟩
    · rfl
    · have later := ih rest.length (Nat.lt_succ_self _) rest rfl
      by_cases percent : c = '%'
      · subst percent
        by_cases found : ∃ d ∈ lastDigits, ['2', d] <+: rest
        · obtain ⟨d, digit, behind, rfl⟩ := found
          have last := ih behind.length (by simp only [List.length_append, List.length_cons]; omega) behind rfl
          have bytes : encoded ('%' :: (['2', d] ++ behind)) = 0x25 :: (encoded ['2', d] ++ encoded behind) := by
            rw [← encoded_append]
            rfl
          change encoded (restore ('%' :: '2' :: d :: behind)) = restoreBytes (encoded ('%' :: (['2', d] ++ behind)))
          rw [restore_digits digit, bytes, restoreBytes_digits digit, ← last, ← encoded_append]
          rfl
        · have apart (d : Char) (digit : d ∈ lastDigits) : ¬encoded ['2', d] <+: encoded rest := by
            exact fun ahead => found ⟨d, digit, prefix_of_encoded (digits_lt digit) ahead⟩
          have bytes : encoded ('%' :: rest) = 0x25 :: encoded rest := rfl
          rw [restore_percent fun d digit ahead => found ⟨d, digit, ahead⟩, bytes, restoreBytes_percent apart, ← later]
          rfl
      · have bytes (t : List Char) : encoded (c :: t) = String.utf8EncodeChar c ++ encoded t := List.flatMap_cons
        rw [restore_cons percent, bytes, bytes, restoreBytes_append (percent_notMem_utf8EncodeChar percent), later]

/-- The bytes restored are no more than those of the one decoding, and they are these just if nothing is
assembled. -/
structure Restores (raw : List Char) : Prop where
  length_le : (restoreBytes (written raw)).length ≤ (octets raw).length
  eq_iff : restoreBytes (written raw) = octets raw ↔ ¬Assembles raw

theorem Restores.append (later : Restores rest) (front : List UInt8) (decoded : octets raw = front ++ octets rest)
    (kept : restoreBytes (written raw) = front ++ restoreBytes (written rest))
    (same : Assembles raw ↔ Assembles rest) : Restores raw := by
  constructor
  · rw [decoded, kept, List.length_append, List.length_append]
    exact Nat.add_le_add_left later.length_le _
  · rw [decoded, kept, List.append_cancel_left_eq, later.eq_iff, same]

theorem restoreBytes_ofByte (b : UInt8) (bytes : List UInt8) :
    restoreBytes ((Atom.ofByte b).written ++ bytes) = b :: restoreBytes bytes := by
  unfold Atom.ofByte
  split
  next slash => rw [slash]; rfl
  next =>
    split
    next percent => rw [percent]; rfl
    next other => exact restoreBytes_cons other bytes

/-- Concealed digits are lost: what they assemble is restored to a single byte. -/
theorem Restores.of_conceals (lone : Lone rest) (conceals : Conceals rest)
    (later : ∀ behind : List Char, behind.length < rest.length → Restores behind) : Restores ('%' :: rest) := by
  have assembled : Assembles ('%' :: rest) := assembles_cons.2 (.inl ⟨rfl, conceals⟩)
  obtain ⟨d, digit, ahead, _⟩ := conceals
  obtain ⟨behind, shorter, decoded, kept⟩ := exists_behind_digits digit (.inl ahead)
  have fewer : (restoreBytes (written ('%' :: rest))).length < (octets ('%' :: rest)).length := by
    have bound := (later behind shorter).length_le
    rw [written_lone lone, kept, restoreBytes_digits digit, octets_lone lone, decoded, List.length_cons,
      List.length_append, List.length_append, length_encoded_digits digit, length_encoded_restored]
    omega
  refine ⟨Nat.le_of_lt fewer, iff_of_false (fun same => ?_) fun none => none assembled⟩
  exact Nat.ne_of_lt fewer (congrArg List.length same)

/-- Digits that are decoded behind a lone percent sign are concealed, as it would begin an escape with digits that
stand there. -/
theorem not_prefix_written (lone : Lone rest) (plain : ¬Conceals rest) {d : Char} (digit : d ∈ lastDigits) :
    ¬encoded ['2', d] <+: written rest := by
  intro ahead
  obtain ⟨behind, _, decoded, _⟩ := exists_behind_digits digit (.inr ahead)
  have standing : ['2', d] <+: rest := by
    by_contra apart
    exact plain ⟨d, digit, decoded ▸ List.prefix_append _ _, apart⟩
  obtain ⟨escaped, escape⟩ := exists_escape_digits digit
  exact lone escaped _ escape (List.cons_prefix_cons.2 ⟨rfl, standing⟩)

theorem restores (raw : List Char) : Restores raw := by
  induction count : raw.length using Nat.strongRecOn generalizing raw with
  | ind n ih =>
    subst count
    cases begins raw with
    | nil => exact ⟨Nat.le_refl _, iff_of_true rfl not_assembles_nil⟩
    | @escape b x escape rest =>
      have shorter : 0 < x.length := List.length_pos_iff.2 (escape_ne_nil escape)
      have later := ih rest.length (by rw [List.length_append]; omega) rest rfl
      refine later.append [b] (octets_escape escape rest) ?_ (assembles_escape escape)
      rw [written_escape escape, restoreBytes_ofByte]
      rfl
    | @lone rest lone =>
      by_cases conceals : Conceals rest
      · exact .of_conceals lone conceals fun behind shorter => ih _ (Nat.lt_succ_of_lt shorter) behind rfl
      · refine (ih rest.length (Nat.lt_succ_self _) rest rfl).append [0x25] (octets_lone lone) ?_ ?_
        · rw [written_lone lone, restoreBytes_percent fun d digit => not_prefix_written lone conceals digit]
          rfl
        · rw [assembles_cons, or_iff_right fun both => conceals both.2]
    | @char c plain rest =>
      have later := ih rest.length (Nat.lt_succ_self _) rest rfl
      refine later.append _ (octets_cons plain rest) ?_ (assembles_cons_of_ne plain)
      rw [written_cons plain, restoreBytes_append (percent_notMem_utf8EncodeChar (blanked_ne_percent plain))]

/-- Where a path is a text once all its escapes are decoded, decoding and restoring give this text, unless
they assemble an escape that does not stand in the path: then something is decoded twice. -/
theorem restore_unescape_eq_iff (whole : octets raw = encoded s) :
    restore (unescape raw) = s ↔ ¬Assembles raw := by
  rw [← encoded_inj, encoded_restore, encoded_unescape ⟨s, whole⟩, ← whole]
  exact (restores raw).eq_iff

/-- Escapes of a percent sign before digits, and stray percent signs before others, are decoded once. -/
theorem restore_unescape_eq_iff_nested :
    octets "%252F/%zz+%C3%A9%2f%%41".toList = encoded "%2F/%zz é/%A".toList ∧
      (restore (unescape "%252F/%zz+%C3%A9%2f%%41".toList) = "%2F/%zz é/%A".toList ↔
        ¬Assembles "%252F/%zz+%C3%A9%2f%%41".toList) ∧
      restore (unescape "%252F/%zz+%C3%A9%2f%%41".toList) = "%2F/%zz é/%A".toList := by
  have whole : octets "%252F/%zz+%C3%A9%2f%%41".toList = encoded "%2F/%zz é/%A".toList := by decide +kernel
  exact ⟨whole, restore_unescape_eq_iff whole, by decide +kernel⟩

/-- Decoding and restoring are not one decoding: behind a stray percent sign the escaped digit of an escape
makes one that is restored. -/
theorem not_every_restore_unescape :
    ¬∀ raw s : List Char, octets raw = encoded s → restore (unescape raw) = s := by
  intro once
  have slash : restore (unescape "%%32F".toList) = "/".toList := by decide +kernel
  have twice := slash.symm.trans (once "%%32F".toList "%2F".toList (by decide +kernel))
  exact absurd twice (by decide)

end UrlRouting.Percent
