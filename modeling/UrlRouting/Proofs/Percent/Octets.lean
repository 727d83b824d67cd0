import Mathlib.Data.List.Basic
import UrlRouting.Proofs.Percent.Escape

/-! The bytes that a path stands for when all its escapes are resolved. A path is decoded for matching
exactly if these are the bytes of a text. It is read from the front, by what it begins with: an escape, a
percent sign that begins none, or another character. -/

namespace UrlRouting.Percent

variable {rest : List Char} {b : UInt8}

/-- The bytes of a text. -/
def Valid (bytes : List UInt8) : Prop := ∃ s, bytes = encoded s

/-- One reading from left to right: a plus sign is a blank, an escape its byte. -/
def octets : List Char → List UInt8
  | [] => []
  | '%' :: h :: l :: rest =>
    match hexValue? h, hexValue? l with
    | some high, some low => UInt8.ofNat (high * 16 + low) :: octets rest
    | _, _ => 0x25 :: octets (h :: l :: rest)
  | c :: rest => String.utf8EncodeChar (blanked c) ++ octets rest

def Atom.octets : Atom → List UInt8
  | char c => String.utf8EncodeChar c
  | byte b => [b]
  | slash => [0x2F]
  | percent => [0x25]

theorem octets_ofByte (b : UInt8) : (Atom.ofByte b).octets = [b] := by
  unfold Atom.ofByte
  split
  next slash => rw [slash, Atom.octets]
  next =>
    split
    next percent => rw [percent, Atom.octets]
    next => rfl

theorem hexValue?_blanked (c : Char) : hexValue? (blanked c) = hexValue? c := by
  unfold blanked
  split
  next plus => rw [plus]; decide
  next => rfl

theorem escapeAtom?_eq_none {h l : Char} (malformed : hexValue? h = none ∨ hexValue? l = none) :
    escapeAtom? h l = none := by
  have first (same : h = '2') : hexValue? h = some 2 := by
    rw [same]
    decide
  have slash (same : l = 'F' ∨ l = 'f') : hexValue? l = some 15 := by
    rcases same with rfl | rfl <;> decide
  have percent (same : l = '5') : hexValue? l = some 5 := by
    rw [same]
    decide
  unfold escapeAtom?
  split
  next both => simp [first both.1, slash both.2] at malformed
  next =>
    split
    next both => simp [first both.1, percent both.2] at malformed
    next =>
      rcases malformed with nothing | nothing
      · rw [nothing]; rfl
      · rw [nothing]; cases hexValue? h <;> rfl

/-- A percent sign before this text begins no escape. -/
def Lone (rest : List Char) : Prop := ∀ b x, Escape b x → ¬x <+: '%' :: rest

theorem Lone.digitless {h l : Char} (lone : Lone (h :: l :: rest)) :
    hexValue? h = none ∨ hexValue? l = none := by
  cases first : hexValue? h with
  | none => exact .inl rfl
  | some high =>
    cases second : hexValue? l with
    | none => exact .inr rfl
    | some low =>
      exact (lone _ ['%', h, l] ⟨h, l, high, low, first, second, rfl, rfl⟩ ⟨rest, rfl⟩).elim

theorem lone_of_digitless {h l : Char} (digitless : hexValue? h = none ∨ hexValue? l = none) :
    Lone (h :: l :: rest) := by
  rintro _ _ ⟨h', l', high, low, first, second, rfl, rfl⟩ ahead
  simp only [List.cons_prefix_cons, true_and] at ahead
  obtain ⟨rfl, rfl, _⟩ := ahead
  rcases digitless with none | none
  · cases first.symm.trans none
  · cases second.symm.trans none

theorem lone_of_short (short : rest.length < 2) : Lone rest := by
  rintro _ _ ⟨h, l, _, _, _, _, _, rfl⟩ ahead
  have longer := ahead.length_le
  simp only [List.length_cons, List.length_nil] at longer
  omega

theorem atoms_lone (lone : Lone rest) :
    atoms (plusAsBlank ('%' :: rest)) = .char '%' :: atoms (plusAsBlank rest) := by
  rcases rest with _ | ⟨h, _ | ⟨l, rest⟩⟩
  · rfl
  · rfl
  · have digitless := lone.digitless
    rw [← hexValue?_blanked, ← hexValue?_blanked l] at digitless
    change atoms ('%' :: blanked h :: blanked l :: plusAsBlank rest) = _
    rw [atoms, escapeAtom?_eq_none digitless]
    rfl

theorem octets_cons {c : Char} (plain : c ≠ '%') (rest : List Char) :
    octets (c :: rest) = String.utf8EncodeChar (blanked c) ++ octets rest := by
  match rest with
  | [] => simp [octets]
  | [_] => simp [octets]
  | _ :: _ :: _ => simp [octets, plain]

theorem octets_eq (x : List Char) : octets x = (atoms (plusAsBlank x)).flatMap Atom.octets := by
  fun_induction octets x with
  | case1 => rfl
  | case2 h l rest high low first second ih =>
    have reads : Reads ['%', h, l] [.ofByte _] := reads_escape ⟨h, l, _, _, second, first, rfl, rfl⟩
    have whole := reads rest
    rw [List.cons_append, List.cons_append, List.cons_append, List.nil_append] at whole
    rw [whole, ih, List.flatMap_append, List.flatMap_singleton, octets_ofByte]
    rfl
  | case3 h l rest malformed ih =>
    have digitless : hexValue? h = none ∨ hexValue? l = none := by
      cases first : hexValue? h with
      | none => exact .inl rfl
      | some high =>
        cases second : hexValue? l with
        | none => exact .inr rfl
        | some low => exact (malformed high low first second).elim
    rw [atoms_lone (lone_of_digitless digitless), ih]
    rfl
  | case4 c rest other ih =>
    have whole : atoms (plusAsBlank (c :: rest)) = .char (blanked c) :: atoms (plusAsBlank rest) := by
      by_cases plain : c = '%'
      · rcases rest with _ | ⟨h, _ | ⟨l, rest⟩⟩
        · rw [plain]
          rfl
        · rw [plain]
          rfl
        · exact (other h l rest plain rfl).elim
      · exact reads_char plain rest
    rw [whole, ih]
    rfl

/-- What a text begins with: an escape, a percent sign that begins none, or another character. -/
inductive Begins : List Char → Prop
  | nil : Begins []
  | escape {b : UInt8} {x : List Char} (escape : Escape b x) (rest : List Char) : Begins (x ++ rest)
  | lone {rest : List Char} (lone : Lone rest) : Begins ('%' :: rest)
  | char {c : Char} (plain : c ≠ '%') (rest : List Char) : Begins (c :: rest)

theorem begins (raw : List Char) : Begins raw := by
  rcases raw with _ | ⟨c, rest⟩
  · exact .nil
  · by_cases percent : c = '%'
    · subst percent
      rcases rest with _ | ⟨h, _ | ⟨l, rest⟩⟩
      · exact .lone (lone_of_short Nat.zero_lt_two)
      · exact .lone (lone_of_short Nat.one_lt_two)
      · cases first : hexValue? h with
        | none => exact .lone (lone_of_digitless (.inl first))
        | some high =>
          cases second : hexValue? l with
          | none => exact .lone (lone_of_digitless (.inr second))
          | some low => exact .escape ⟨h, l, high, low, first, second, rfl, rfl⟩ rest
    · exact .char percent rest

theorem atoms_escape {x : List Char} (escape : Escape b x) (rest : List Char) :
    atoms (plusAsBlank (x ++ rest)) = Atom.ofByte b :: atoms (plusAsBlank rest) := reads_escape escape rest

theorem octets_escape {x : List Char} (escape : Escape b x) (rest : List Char) :
    octets (x ++ rest) = b :: octets rest := by
  rw [octets_eq, octets_eq, atoms_escape escape, List.flatMap_cons, octets_ofByte]
  rfl

theorem octets_lone (lone : Lone rest) : octets ('%' :: rest) = 0x25 :: octets rest := by
  rw [octets_eq, octets_eq, atoms_lone lone]
  rfl

theorem isSome_utf8?_iff (bytes : List UInt8) : (utf8? bytes).isSome ↔ Valid bytes := by
  rw [Option.isSome_iff_exists]
  exact exists_congr fun s => utf8?_eq_some_iff

/-- A reserved escape cuts the bytes where they can be cut. -/
theorem isSome_resolve?_cut {b : UInt8} (small : b.toNat < 128) (pending : List UInt8)
    {rest : List Atom} (later : (resolve? [] rest).isSome ↔ Valid (rest.flatMap Atom.octets))
    (kept : List Char → List Char) :
    ((utf8? pending).bind fun piece => (resolve? [] rest).bind fun more =>
        some (piece ++ kept more)).isSome ↔
      Valid (pending ++ ([b] ++ rest.flatMap Atom.octets)) := by
  rw [List.singleton_append, Valid, exists_encoded_iff small]
  change _ ↔ Valid pending ∧ Valid (rest.flatMap Atom.octets)
  rw [← isSome_utf8?_iff, ← later]
  cases utf8? pending <;> cases resolve? [] rest <;> simp

theorem isSome_resolve?_iff (pending : List UInt8) (as : List Atom) :
    (resolve? pending as).isSome ↔ Valid (pending ++ as.flatMap Atom.octets) := by
  induction as generalizing pending with
  | nil => rw [resolve?, isSome_utf8?_iff, List.flatMap_nil, List.append_nil]
  | cons a rest ih =>
    have later := ih []
    rw [List.nil_append] at later
    rw [List.flatMap_cons]
    cases a with
    | char c => rw [resolve?, ih, List.append_assoc, Atom.octets]
    | byte b => rw [resolve?, ih, List.append_assoc, Atom.octets]
    | slash => exact isSome_resolve?_cut (by decide) pending later fun more => '%' :: '2' :: 'F' :: more
    | percent =>
      exact isSome_resolve?_cut (by decide) pending later fun more => '%' :: '2' :: '5' :: more

theorem isSome_resolve?_atoms (x : List Char) :
    (resolve? [] (atoms (plusAsBlank x))).isSome ↔ Valid (octets x) := by
  rw [isSome_resolve?_iff, octets_eq, List.nil_append]

/-- What a decoded text holds for an atom: a reserved escape stays, in upper case. -/
def Atom.written : Atom → List UInt8
  | char c => String.utf8EncodeChar c
  | byte b => [b]
  | slash => encoded ['%', '2', 'F']
  | percent => encoded ['%', '2', '5']

theorem encoded_of_resolve? {pending : List UInt8} {as : List Atom} {s : List Char}
    (resolved : resolve? pending as = some s) : encoded s = pending ++ as.flatMap Atom.written := by
  have cut {pending : List UInt8} {rest : List Atom} {s kept : List Char}
      (ih : ∀ more, resolve? [] rest = some more → encoded more = rest.flatMap Atom.written)
      (resolved : ((utf8? pending).bind fun piece => (resolve? [] rest).bind fun more =>
        some (piece ++ (kept ++ more))) = some s) :
      encoded s = pending ++ (encoded kept ++ rest.flatMap Atom.written) := by
    obtain ⟨piece, front, resolved⟩ := Option.bind_eq_some_iff.1 resolved
    obtain ⟨more, back, resolved⟩ := Option.bind_eq_some_iff.1 resolved
    obtain rfl := Option.some.inj resolved
    rw [encoded_append, encoded_append, ih more back, utf8?_eq_some_iff.1 front]
  induction as generalizing pending s with
  | nil => rw [List.flatMap_nil, List.append_nil, utf8?_eq_some_iff.1 resolved]
  | cons a rest ih =>
    rw [List.flatMap_cons]
    have later (more : List Char) (back : resolve? [] rest = some more) :
        encoded more = rest.flatMap Atom.written := ih back
    cases a with
    | char c => rw [ih resolved, List.append_assoc, Atom.written]
    | byte b => rw [ih resolved, List.append_assoc, Atom.written]
    | slash => exact cut later resolved
    | percent => exact cut later resolved

/-- The bytes of the text that a path is decoded to. -/
def written (x : List Char) : List UInt8 := (atoms (plusAsBlank x)).flatMap Atom.written

theorem encoded_unescape {x : List Char} (valid : Valid (octets x)) : encoded (unescape x) = written x := by
  obtain ⟨s, resolved⟩ := Option.isSome_iff_exists.1 ((isSome_resolve?_atoms x).2 valid)
  rw [unescape, resolved, Option.getD_some, encoded_of_resolve? resolved]
  rfl

theorem written_escape {x : List Char} (escape : Escape b x) (rest : List Char) :
    written (x ++ rest) = (Atom.ofByte b).written ++ written rest := by
  rw [written, atoms_escape escape, List.flatMap_cons, written]

theorem written_lone (lone : Lone rest) : written ('%' :: rest) = 0x25 :: written rest := by
  rw [written, atoms_lone lone]
  rfl

theorem written_cons {c : Char} (plain : c ≠ '%') (rest : List Char) :
    written (c :: rest) = String.utf8EncodeChar (blanked c) ++ written rest := by
  have reads := reads_char plain rest
  rw [List.singleton_append] at reads
  rw [written, reads]
  rfl

theorem unescape_of_not_valid {x : List Char} (invalid : ¬Valid (octets x)) : unescape x = x := by
  rw [← isSome_resolve?_atoms, Option.not_isSome_iff_eq_none] at invalid
  rw [unescape, invalid, Option.getD_none]

theorem exists_ofByte {h l : Char} {a : Atom} (escape : escapeAtom? h l = some a) :
    ∃ b, a = Atom.ofByte b := by
  cases first : hexValue? h with
  | none =>
    rw [escapeAtom?_eq_none (.inl first)] at escape
    cases escape
  | some high =>
    cases second : hexValue? l with
    | none =>
      rw [escapeAtom?_eq_none (.inr second)] at escape
      cases escape
    | some low => exact ⟨_, Option.some.inj (escape.symm.trans (escapeAtom?_eq first second))⟩

end UrlRouting.Percent
