import UrlRouting.Proofs.Percent.Utf8

/-! Escapes and what reading a text makes of them. The case of their digits is lost at once; those of
the bytes of a character other than the slash and the percent sign are resolved to the character. -/

namespace UrlRouting.Percent

/-- A percent sign and two digits, in either case, that give the byte. -/
def Escape (b : UInt8) (x : List Char) : Prop :=
  ∃ h l high low, hexValue? h = some high ∧ hexValue? l = some low ∧
    b = UInt8.ofNat (high * 16 + low) ∧ x = ['%', h, l]

/-- An escape for each byte. -/
inductive Escapes : List UInt8 → List Char → Prop
  | nil : Escapes [] []
  | cons {b : UInt8} {bytes : List UInt8} {x y : List Char} (first : Escape b x)
      (rest : Escapes bytes y) : Escapes (b :: bytes) (x ++ y)

theorem escape_ne_nil {b : UInt8} {x : List Char} (escape : Escape b x) : x ≠ [] := by
  obtain ⟨_, _, _, _, _, _, _, rfl⟩ := escape
  exact List.cons_ne_nil _ _

theorem escapes_ne_nil {bytes : List UInt8} {x : List Char} (escapes : Escapes bytes x)
    (present : bytes ≠ []) : x ≠ [] := by
  cases escapes with
  | nil => exact absurd rfl present
  | cons first _ => simp [escape_ne_nil first]

/-- What is read where a byte is escaped. -/
def Atom.ofByte (b : UInt8) : Atom := if b = 0x2F then slash else if b = 0x25 then percent else byte b

theorem hexValue?_eq_some {c : Char} {n : Nat} (value : hexValue? c = some n) :
    48 ≤ c.toNat ∧ c.toNat ≤ 57 ∧ n = c.toNat - 48 ∨
      65 ≤ c.toNat ∧ c.toNat ≤ 70 ∧ n = c.toNat - 55 ∨
      97 ≤ c.toNat ∧ c.toNat ≤ 102 ∧ n = c.toNat - 87 := by
  have order (a b : Char) : a ≤ b ↔ a.toNat ≤ b.toNat := Iff.rfl
  simp only [hexValue?, order] at value
  change (if 48 ≤ c.toNat ∧ c.toNat ≤ 57 then some (c.toNat - 48)
    else if 65 ≤ c.toNat ∧ c.toNat ≤ 70 then some (c.toNat - 55)
    else if 97 ≤ c.toNat ∧ c.toNat ≤ 102 then some (c.toNat - 87) else none) = some n at value
  split at value
  next digit =>
    cases value
    omega
  next =>
    split at value
    next =>
      cases value
      omega
    next =>
      split at value
      next =>
        cases value
        omega
      next => cases value

theorem hexValue?_lt {c : Char} {n : Nat} (value : hexValue? c = some n) : n < 16 := by
  have := hexValue?_eq_some value
  omega

theorem eq_iff_toNat_eq (c d : Char) : c = d ↔ c.toNat = d.toNat := Char.toNat_inj.symm

theorem escapeAtom?_eq {h l : Char} {high low : Nat} (first : hexValue? h = some high)
    (second : hexValue? l = some low) :
    escapeAtom? h l = some (Atom.ofByte (UInt8.ofNat (high * 16 + low))) := by
  have := hexValue?_lt first
  have := hexValue?_lt second
  have head := hexValue?_eq_some first
  have last := hexValue?_eq_some second
  have code (b : UInt8) : UInt8.ofNat (high * 16 + low) = b ↔ high * 16 + low = b.toNat := by
    rw [← UInt8.toNat_inj, UInt8.toNat_ofNat', Nat.mod_eq_of_lt (by omega)]
  simp only [escapeAtom?, Atom.ofByte, code, eq_iff_toNat_eq, first, second]
  change (if h.toNat = 50 ∧ (l.toNat = 70 ∨ l.toNat = 102) then some Atom.slash
    else if h.toNat = 50 ∧ l.toNat = 53 then some .percent
    else some (.byte (UInt8.ofNat (high * 16 + low)))) =
      some (if high * 16 + low = 47 then .slash
        else if high * 16 + low = 37 then .percent else .byte (UInt8.ofNat (high * 16 + low)))
  by_cases slash : high * 16 + low = 47
  · rw [if_pos slash, if_pos (by omega)]
  · rw [if_neg slash, if_neg (by omega)]
    by_cases percent : high * 16 + low = 37
    · rw [if_pos percent, if_pos (by omega)]
    · rw [if_neg percent, if_neg (by omega)]

theorem atoms_cons {c : Char} (plain : c ≠ '%') (rest : List Char) :
    atoms (c :: rest) = .char c :: atoms rest := by
  match rest with
  | [] => simp [atoms]
  | [_] => simp [atoms]
  | _ :: _ :: _ => simp [atoms, plain]

/-- What a plus sign is read as; every other character is read as itself. -/
def blanked (c : Char) : Char := if c = '+' then ' ' else c

/-- What a text is read as, whatever stands after it. -/
def Reads (x : List Char) (as : List Atom) : Prop :=
  ∀ rest, atoms (plusAsBlank (x ++ rest)) = as ++ atoms (plusAsBlank rest)

theorem reads_nil : Reads [] [] := fun _ => rfl

theorem Reads.append {x y : List Char} {as bs : List Atom} (left : Reads x as) (right : Reads y bs) :
    Reads (x ++ y) (as ++ bs) := fun rest => by
  rw [List.append_assoc, left, right, List.append_assoc]

theorem Reads.atoms {x : List Char} {as : List Atom} (reads : Reads x as) :
    atoms (plusAsBlank x) = as := by
  have whole := reads []
  rw [List.append_nil] at whole
  rw [whole]
  exact List.append_nil as

theorem blanked_ne_percent {c : Char} (plain : c ≠ '%') : blanked c ≠ '%' := by
  unfold blanked
  split
  · decide
  · exact plain

theorem reads_char {c : Char} (plain : c ≠ '%') : Reads [c] [.char (blanked c)] := fun _ =>
  atoms_cons (blanked_ne_percent plain) _

theorem blanked_of_hexValue? {c : Char} {n : Nat} (value : hexValue? c = some n) : blanked c = c := by
  unfold blanked
  split
  next plus =>
    subst plus
    cases value
  next => rfl

theorem reads_escape {b : UInt8} {x : List Char} (escape : Escape b x) : Reads x [.ofByte b] :=
    fun rest => by
  obtain ⟨h, l, high, low, first, second, rfl, rfl⟩ := escape
  have spaced : plusAsBlank (['%', h, l] ++ rest) = '%' :: h :: l :: plusAsBlank rest := by
    change _ :: blanked h :: blanked l :: _ = _
    rw [blanked_of_hexValue? first, blanked_of_hexValue? second]
    rfl
  rw [spaced, atoms, escapeAtom?_eq first second]
  rfl

theorem reads_escapes {bytes : List UInt8} {x : List Char} (escapes : Escapes bytes x) :
    Reads x (bytes.map Atom.ofByte) := by
  induction escapes with
  | nil => exact reads_nil
  | cons first _ ih => exact (reads_escape first).append ih

theorem hexValue?_hexDigit {n : Nat} (digit : n < 16) : hexValue? (hexDigit n) = some n := by
  have all : ∀ m < 16, hexValue? (hexDigit m) = some m := by decide
  exact all n digit

theorem escape_escapeByte (b : UInt8) : Escape b (escapeByte b) := by
  have bound := b.toNat_lt
  refine ⟨_, _, b.toNat / 16, b.toNat % 16, hexValue?_hexDigit (by omega),
    hexValue?_hexDigit (by omega), ?_, rfl⟩
  rw [Nat.div_add_mod', UInt8.ofNat_toNat]

theorem escapes_escapeByte (bytes : List UInt8) : Escapes bytes (bytes.flatMap escapeByte) := by
  induction bytes with
  | nil => exact .nil
  | cons b bytes ih => exact .cons (escape_escapeByte b) ih

theorem resolve?_bytes (pending bytes : List UInt8) (rest : List Atom) :
    resolve? pending (bytes.map Atom.byte ++ rest) = resolve? (pending ++ bytes) rest := by
  induction bytes generalizing pending with
  | nil => rw [List.map_nil, List.nil_append, List.append_nil]
  | cons b bytes ih =>
    rw [List.map_cons, List.cons_append, resolve?, ih, List.append_assoc]
    rfl

/-- The bytes of a character other than the two reserved ones hold neither of these. -/
theorem map_ofByte_utf8EncodeChar {c : Char} (slashless : c ≠ '/') (percentless : c ≠ '%') :
    (String.utf8EncodeChar c).map Atom.ofByte = (String.utf8EncodeChar c).map Atom.byte := by
  apply List.map_congr_left
  intro b member
  have different (a : Char) (small : a.toNat < 128) (other : c ≠ a) : b ≠ UInt8.ofNat a.toNat := by
    intro same
    subst same
    have code : (UInt8.ofNat a.toNat).toNat = a.toNat := by
      rw [UInt8.toNat_ofNat']
      omega
    obtain ⟨front, back, same⟩ := List.append_of_mem member
    obtain ⟨_, _, whole⟩ := utf8EncodeChar_eq_append (by omega) same
    rw [code, Char.ofNat_toNat] at whole
    exact other whole
  have first : b ≠ 0x2F := different '/' (by decide) slashless
  have second : b ≠ 0x25 := different '%' (by decide) percentless
  rw [Atom.ofByte, if_neg first, if_neg second]

theorem resolve?_escapes {c : Char} (slashless : c ≠ '/') (percentless : c ≠ '%')
    (pending : List UInt8) (rest : List Atom) :
    resolve? pending ((String.utf8EncodeChar c).map Atom.ofByte ++ rest) =
      resolve? pending (.char c :: rest) := by
  rw [map_ofByte_utf8EncodeChar slashless percentless, resolve?_bytes, resolve?]

end UrlRouting.Percent
