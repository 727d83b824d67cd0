import UrlRouting.Percent

/-! The bytes of texts. A byte below 128 is a character by itself, wherever it stands, so bytes that
are the bytes of a text can be cut there and remain so on both sides. -/

namespace UrlRouting.Percent

/-- The bytes of a text. -/
def encoded (s : List Char) : List UInt8 := s.flatMap String.utf8EncodeChar

theorem encoded_append (s t : List Char) : encoded (s ++ t) = encoded s ++ encoded t :=
  List.flatMap_append

theorem encoded_singleton (c : Char) : encoded [c] = String.utf8EncodeChar c := List.flatMap_singleton ..

theorem utf8?_eq_some_iff {bytes : List UInt8} {s : List Char} :
    utf8? bytes = some s ↔ bytes = encoded s := by
  have array (l : List UInt8) : ByteArray.mk l.toArray = l.toByteArray := by
    rw [← List.data_toByteArray]
  have whole : (encoded s).toByteArray = s.utf8Encode := rfl
  rw [utf8?, array]
  constructor
  · intro decodes
    obtain ⟨chars, found, rfl⟩ := Option.map_eq_some_iff.1 decodes
    have back : bytes.toByteArray = chars.toList.utf8Encode := by
      have present : bytes.toByteArray.utf8Decode?.isSome := by rw [found]; rfl
      have inverse := ByteArray.utf8Encode_get_utf8Decode? (b := bytes.toByteArray) (h := present)
      simpa only [found, Option.get_some] using inverse.symm
    have lists := congrArg (fun b : ByteArray => b.data.toList) back
    simpa [List.utf8Encode, encoded] using lists
  · intro same
    subst same
    rw [whole, List.utf8Decode?_utf8Encode]
    simp

theorem utf8?_encoded (s : List Char) : utf8? (encoded s) = some s := utf8?_eq_some_iff.2 rfl

theorem encoded_inj {s t : List Char} : encoded s = encoded t ↔ s = t := by
  refine ⟨fun same => ?_, congrArg encoded⟩
  have decoded := utf8?_encoded s
  rw [same, utf8?_encoded] at decoded
  exact (Option.some.inj decoded).symm

theorem utf8EncodeChar_ne_nil (c : Char) : String.utf8EncodeChar c ≠ [] := by
  rw [← List.length_pos_iff, String.length_utf8EncodeChar]
  exact c.utf8Size_pos

theorem utf8EncodeChar_of_lt {c : Char} (small : c.toNat < 128) :
    String.utf8EncodeChar c = [UInt8.ofNat c.toNat] := by
  have bound : c.val.toNat ≤ 0x7f := by
    change c.val.toNat < 128 at small
    omega
  rw [String.utf8EncodeChar, if_pos bound]
  rfl

theorem le_of_mem_utf8EncodeChar {c : Char} (large : 128 ≤ c.toNat) {b : UInt8}
    (member : b ∈ String.utf8EncodeChar c) : 128 ≤ b.toNat := by
  have bound : ¬c.val.toNat ≤ 0x7f := by
    change 128 ≤ c.val.toNat at large
    omega
  simp only [String.utf8EncodeChar, if_neg bound] at member
  split at member
  next =>
    simp only [List.mem_cons, List.not_mem_nil, or_false] at member
    rcases member with rfl | rfl <;> simp only [UInt8.toNat_ofNat'] <;> omega
  next =>
    split at member <;> simp only [List.mem_cons, List.not_mem_nil, or_false] at member
    · rcases member with rfl | rfl | rfl <;> simp only [UInt8.toNat_ofNat'] <;> omega
    · rcases member with rfl | rfl | rfl | rfl <;> simp only [UInt8.toNat_ofNat'] <;> omega

theorem utf8EncodeChar_ofNat {b : UInt8} (small : b.toNat < 128) :
    String.utf8EncodeChar (Char.ofNat b.toNat) = [b] := by
  have valid : b.toNat.isValidChar := .inl (by omega)
  have code : (Char.ofNat b.toNat).toNat = b.toNat := by
    rw [Char.ofNat, dif_pos valid]
    rfl
  rw [utf8EncodeChar_of_lt (by omega), code, UInt8.ofNat_toNat]

/-- A byte below 128 is not part of a longer encoding. -/
theorem utf8EncodeChar_eq_append {c : Char} {b : UInt8} {front more : List UInt8}
    (small : b.toNat < 128) (same : String.utf8EncodeChar c = front ++ b :: more) :
    front = [] ∧ more = [] ∧ c = Char.ofNat b.toNat := by
  have inside : b ∈ String.utf8EncodeChar c := by simp [same]
  have ascii : c.toNat < 128 := Nat.lt_of_not_le fun large => by
    have := le_of_mem_utf8EncodeChar large inside
    omega
  rw [utf8EncodeChar_of_lt ascii] at same
  obtain ⟨rfl, rest⟩ : front = [] ∧ [UInt8.ofNat c.toNat] = b :: more := by
    cases front with
    | nil => exact ⟨rfl, same⟩
    | cons _ _ => simp at same
  obtain ⟨rfl, rfl⟩ := List.cons.inj rest
  have code : (UInt8.ofNat c.toNat).toNat = c.toNat := by
    rw [UInt8.toNat_ofNat']
    omega
  exact ⟨rfl, rfl, by rw [code, Char.ofNat_toNat]⟩

theorem percent_notMem_utf8EncodeChar {c : Char} (plain : c ≠ '%') : 0x25 ∉ String.utf8EncodeChar c := by
  intro member
  obtain ⟨front, back, split⟩ := List.append_of_mem member
  exact plain (utf8EncodeChar_eq_append (by decide) split).2.2

/-- A byte below 128 in the bytes of a text is one of its characters. -/
theorem exists_split_of_encoded {s : List Char} {front back : List UInt8} {b : UInt8}
    (small : b.toNat < 128) (same : encoded s = front ++ b :: back) :
    ∃ t u, s = t ++ Char.ofNat b.toNat :: u ∧ encoded t = front ∧ encoded u = back := by
  induction s generalizing front with
  | nil => simp [encoded] at same
  | cons c rest ih =>
    have head : encoded (c :: rest) = String.utf8EncodeChar c ++ encoded rest := List.flatMap_cons
    have later (front' : List UInt8) (front_eq : front = String.utf8EncodeChar c ++ front')
        (rest_eq : encoded rest = front' ++ b :: back) :
        ∃ t u, c :: rest = t ++ Char.ofNat b.toNat :: u ∧ encoded t = front ∧ encoded u = back := by
      obtain ⟨t, u, rfl, rfl, rfl⟩ := ih rest_eq
      exact ⟨c :: t, u, rfl, front_eq ▸ List.flatMap_cons, rfl⟩
    rw [head] at same
    rcases List.append_eq_append_iff.1 same with ⟨more, front_eq, rest_eq⟩ | ⟨more, char_eq, back_eq⟩
    · exact later more front_eq rest_eq
    · cases more with
      | nil => exact later [] (by rw [char_eq, List.append_nil, List.append_nil]) (by simpa using back_eq.symm)
      | cons a more =>
        obtain ⟨rfl, rest_eq⟩ := List.cons.inj back_eq
        obtain ⟨rfl, rfl, rfl⟩ := utf8EncodeChar_eq_append small char_eq
        exact ⟨[], rest, rfl, rfl, rest_eq.symm⟩

theorem prefix_of_encoded {x s : List Char} (ascii : ∀ c ∈ x, c.toNat < 128) (ahead : encoded x <+: encoded s) :
    x <+: s := by
  induction x generalizing s with
  | nil => exact List.nil_prefix
  | cons c x ih =>
    obtain ⟨small, later⟩ := List.forall_mem_cons.1 ascii
    obtain ⟨more, same⟩ := ahead
    have code : (UInt8.ofNat c.toNat).toNat = c.toNat := by
      rw [UInt8.toNat_ofNat']
      omega
    have split : encoded s = [] ++ UInt8.ofNat c.toNat :: (encoded x ++ more) := by
      rw [← same, encoded, List.flatMap_cons, utf8EncodeChar_of_lt small]
      rfl
    obtain ⟨t, u, rfl, none, back⟩ := exists_split_of_encoded (code.symm ▸ small) split
    obtain rfl : t = [] := encoded_inj.1 none
    rw [code, Char.ofNat_toNat, List.nil_append]
    exact List.cons_prefix_cons.2 ⟨rfl, ih later ⟨more, back.symm⟩⟩

/-- Bytes around one below 128 are a text exactly if they are one on either side. -/
theorem exists_encoded_iff {b : UInt8} (small : b.toNat < 128) (front back : List UInt8) :
    (∃ s, front ++ b :: back = encoded s) ↔ (∃ s, front = encoded s) ∧ ∃ s, back = encoded s := by
  constructor
  · intro given
    obtain ⟨s, same⟩ := given
    obtain ⟨t, u, _, front_eq, back_eq⟩ := exists_split_of_encoded small same.symm
    exact ⟨⟨t, front_eq.symm⟩, u, back_eq.symm⟩
  · intro given
    obtain ⟨⟨t, rfl⟩, u, rfl⟩ := given
    refine ⟨t ++ Char.ofNat b.toNat :: u, ?_⟩
    rw [encoded_append, encoded, encoded, encoded, List.flatMap_cons, utf8EncodeChar_ofNat small]
    rfl

end UrlRouting.Percent
