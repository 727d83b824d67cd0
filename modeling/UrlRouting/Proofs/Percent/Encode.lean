import UrlRouting.Proofs.Percent.Escape
import UrlRouting.Proofs.Text.Pieces

/-! Encoding and what decoding makes of it. A value put into a path is matched in a form of its own,
in which only the two reserved characters are still escaped; resolving these gives the value back. -/

namespace UrlRouting.Percent

/-- The form of a character in a decoded path. -/
def settled (c : Char) : List Char :=
  if c = '/' then ['%', '2', 'F'] else if c = '%' then ['%', '2', '5'] else [c]

/-- The encoding of a character in a slot. -/
def encodeAt (wildcard : Bool) (c : Char) : List Char :=
  if wildcard ∧ c = '/' then ['/'] else encodeChar c

def settledAt (wildcard : Bool) (c : Char) : List Char :=
  if wildcard ∧ c = '/' then ['/'] else settled c

/-- The form of a value in a decoded path. -/
def settledValue (wildcard : Bool) (s : List Char) : List Char := s.flatMap (settledAt wildcard)

/-- Before what is decoded to some text, the text is decoded to another before that one. -/
def Settles (x y : List Char) : Prop :=
  ∀ rest more, (∀ t, resolve? (encoded t) (atoms (plusAsBlank rest)) = some (t ++ more)) →
    ∀ t, resolve? (encoded t) (atoms (plusAsBlank (x ++ rest))) = some (t ++ (y ++ more))

theorem settles_nil : Settles [] [] := fun _ _ resolves => resolves

theorem Settles.append {x y s t : List Char} (left : Settles x y) (right : Settles s t) :
    Settles (x ++ s) (y ++ t) := fun rest more resolves => by
  rw [List.append_assoc, List.append_assoc]
  exact left _ _ (right _ _ resolves)

theorem Settles.flatMap {α : Type} {as : List α} {f g : α → List Char}
    (each : ∀ a ∈ as, Settles (f a) (g a)) : Settles (as.flatMap f) (as.flatMap g) := by
  induction as with
  | nil => exact settles_nil
  | cons a as ih =>
    rw [List.flatMap_cons, List.flatMap_cons]
    exact (each a List.mem_cons_self).append (ih fun b member => each b (List.mem_cons_of_mem a member))

theorem Settles.unescape {x y : List Char} (settles : Settles x y) : unescape x = y := by
  have whole := settles [] [] (fun t => by
    rw [List.append_nil]
    exact utf8?_encoded t) []
  rw [List.append_nil, List.append_nil, List.nil_append] at whole
  rw [Percent.unescape]
  change (resolve? (encoded []) _).getD x = y
  rw [whole]
  rfl

theorem resolve?_char (t : List Char) (c : Char) (rest : List Atom) :
    resolve? (encoded t) (.char c :: rest) = resolve? (encoded (t ++ [c])) rest := by
  rw [resolve?, encoded_append, encoded_singleton]

/-- A character that is not part of an escape is left. -/
theorem settles_char {c : Char} (plain : c ≠ '%') : Settles [c] [blanked c] :=
    fun rest more resolves t => by
  rw [reads_char plain, List.singleton_append, resolve?_char, resolves, List.append_assoc]

theorem settles_slash : Settles ['/'] ['/'] := settles_char (by decide)

/-- The escapes of a character are resolved, unless it is a reserved one. -/
theorem settles_escapes {c : Char} {x : List Char} (escapes : Escapes (String.utf8EncodeChar c) x) :
    Settles x (settled c) := fun rest more resolves t => by
  rw [reads_escapes escapes]
  by_cases slash : c = '/'
  · subst slash
    change (do
      let piece ← utf8? (encoded t)
      let later ← resolve? (encoded []) (atoms (plusAsBlank rest))
      some (piece ++ '%' :: '2' :: 'F' :: later)) = _
    rw [utf8?_encoded, resolves]
    rfl
  · by_cases percent : c = '%'
    · subst percent
      change (do
        let piece ← utf8? (encoded t)
        let later ← resolve? (encoded []) (atoms (plusAsBlank rest))
        some (piece ++ '%' :: '2' :: '5' :: later)) = _
      rw [utf8?_encoded, resolves]
      rfl
    · rw [resolve?_escapes slash percent, resolve?_char, resolves, settled, if_neg slash,
        if_neg percent, List.append_assoc]

theorem ne_of_isKept {c d : Char} (kept : isKept c = true) (other : isKept d = false) : c ≠ d := by
  intro same
  subst same
  rw [kept] at other
  cases other

theorem settles_encodeChar (c : Char) : Settles (encodeChar c) (settled c) := by
  unfold encodeChar
  split
  next kept =>
    have other (d : Char) (escaped : isKept d = false) : c ≠ d := ne_of_isKept kept escaped
    have settles := settles_char (other '%' (by decide))
    rw [blanked, if_neg (other '+' (by decide))] at settles
    rwa [settled, if_neg (other '/' (by decide)), if_neg (other '%' (by decide))]
  next =>
    split
    next blank =>
      subst blank
      exact settles_char (by decide)
    next => exact settles_escapes (escapes_escapeByte _)

theorem join_encodePiece (s : List Char) :
    Slash.join ((Slash.pieces s).map encodePiece) = s.flatMap (encodeAt true) := by
  induction s with
  | nil => rfl
  | cons c s ih =>
    obtain ⟨piece, others, parts⟩ := List.exists_cons_of_ne_nil (Slash.pieces_ne_nil s)
    rw [List.flatMap_cons, ← ih]
    by_cases slash : c = '/'
    · rw [Slash.pieces, if_pos slash, encodeAt, if_pos ⟨rfl, slash⟩, parts]
      rfl
    · have first : encodePiece (c :: piece) = encodeChar c ++ encodePiece piece := List.flatMap_cons
      rw [Slash.pieces, if_neg slash, encodeAt, if_neg fun both => slash both.2, parts]
      simp only [List.map_cons, first]
      cases others with
      | nil => rfl
      | cons _ _ => exact List.append_assoc _ _ _

theorem encodeValue_eq (wildcard : Bool) (s : List Char) :
    encodeValue wildcard s = s.flatMap (encodeAt wildcard) := by
  cases wildcard with
  | false =>
    rw [encodeValue, if_neg Bool.false_ne_true, encodePiece]
    exact congrArg s.flatMap (funext fun c => (if_neg fun both => Bool.false_ne_true both.1).symm)
  | true =>
    rw [encodeValue, if_pos rfl, join_encodePiece]

theorem settles_encodeValue (wildcard : Bool) (s : List Char) :
    Settles (encodeValue wildcard s) (settledValue wildcard s) := by
  rw [encodeValue_eq]
  apply Settles.flatMap
  intro c _
  unfold encodeAt settledAt
  split
  · exact settles_slash
  · exact settles_encodeChar c

theorem matchedForm_eq (wildcard : Bool) (s : List Char) :
    matchedForm wildcard s = settledValue wildcard s := (settles_encodeValue wildcard s).unescape

theorem restore_cons {c : Char} (plain : c ≠ '%') (rest : List Char) :
    restore (c :: rest) = c :: restore rest := by
  match rest with
  | [] => simp [restore]
  | [_] => simp [restore]
  | _ :: _ :: _ => simp [restore, plain]

theorem restore_ne_nil {s : List Char} (present : s ≠ []) : restore s ≠ [] := by
  fun_cases restore s <;> simp_all

/-- The value is got back from its form in a decoded path. -/
theorem restore_settledValue (wildcard : Bool) (s : List Char) :
    restore (settledValue wildcard s) = s := by
  induction s with
  | nil => rfl
  | cons c s ih =>
    have each : restore (settledAt wildcard c ++ settledValue wildcard s) =
        c :: restore (settledValue wildcard s) := by
      unfold settledAt
      split
      next kept =>
        rw [kept.2]
        exact restore_cons (by decide) _
      next =>
        unfold settled
        split
        next slash => rw [slash]; rfl
        next =>
          split
          next percent => rw [percent]; rfl
          next plain => exact restore_cons plain _
    rw [settledValue, List.flatMap_cons]
    change restore (settledAt wildcard c ++ settledValue wildcard s) = _
    rw [each, ih]

theorem mem_encodeChar {c d : Char} (member : d ∈ encodeChar c) :
    isKept d = true ∨ d = '%' ∨ d = '+' := by
  have digit (n : Nat) (small : n < 16) : isKept (hexDigit n) = true := by
    have all : ∀ m < 16, isKept (hexDigit m) = true := by decide
    exact all n small
  unfold encodeChar at member
  split at member
  next kept => exact .inl (List.mem_singleton.1 member ▸ kept)
  next =>
    split at member
    next => exact .inr (.inr (List.mem_singleton.1 member))
    next =>
      obtain ⟨b, _, inside⟩ := List.mem_flatMap.1 member
      have bound := b.toNat_lt
      simp only [escapeByte, List.mem_cons, List.not_mem_nil, or_false] at inside
      rcases inside with rfl | rfl | rfl
      · exact .inr (.inl rfl)
      · exact .inl (digit _ (by omega))
      · exact .inl (digit _ (by omega))

theorem notMem_encodeChar {d : Char} (escaped : isKept d = false) (percent : d ≠ '%') (plus : d ≠ '+')
    (c : Char) : d ∉ encodeChar c := fun member => by
  rcases mem_encodeChar member with kept | same | same
  · rw [escaped] at kept
    cases kept
  · exact percent same
  · exact plus same

theorem encodeChar_ne_nil (c : Char) : encodeChar c ≠ [] := by
  unfold encodeChar
  split
  · exact List.cons_ne_nil _ _
  · split
    · exact List.cons_ne_nil _ _
    · exact escapes_ne_nil (escapes_escapeByte _) (utf8EncodeChar_ne_nil c)

theorem encodeAt_ne_nil (wildcard : Bool) (c : Char) : encodeAt wildcard c ≠ [] := by
  unfold encodeAt
  split
  · exact List.cons_ne_nil _ _
  · exact encodeChar_ne_nil c

theorem notMem_encodeValue {d : Char} (escaped : isKept d = false) (percent : d ≠ '%') (plus : d ≠ '+')
    (slash : d ≠ '/') (wildcard : Bool) (s : List Char) : d ∉ encodeValue wildcard s := fun member => by
  rw [encodeValue_eq] at member
  obtain ⟨c, _, inside⟩ := List.mem_flatMap.1 member
  unfold encodeAt at inside
  split at inside
  · exact slash (List.mem_singleton.1 inside)
  · exact notMem_encodeChar escaped percent plus c inside

theorem slash_mem_encodeAt {wildcard : Bool} {c : Char} (member : '/' ∈ encodeAt wildcard c) :
    wildcard = true ∧ c = '/' := by
  unfold encodeAt at member
  split at member
  next kept => exact kept
  next => exact absurd member (notMem_encodeChar (by decide) (by decide) (by decide) c)

theorem settledAt_ne_nil (wildcard : Bool) (c : Char) : settledAt wildcard c ≠ [] := by
  unfold settledAt settled
  repeat' split
  all_goals exact List.cons_ne_nil _ _

theorem mem_settledAt {wildcard : Bool} {c d : Char} (member : d ∈ settledAt wildcard c) :
    d ∈ ['%', '2', 'F', '5'] ∨ d = c ∧ (d = '/' → wildcard = true) := by
  unfold settledAt at member
  split at member
  next kept => exact .inr ⟨(List.mem_singleton.1 member).trans kept.2.symm, fun _ => kept.1⟩
  next =>
    unfold settled at member
    split at member
    next => exact .inl ((by simp : ['%', '2', 'F'] ⊆ ['%', '2', 'F', '5']) member)
    next other =>
      split at member
      next => exact .inl ((by simp : ['%', '2', '5'] ⊆ ['%', '2', 'F', '5']) member)
      next =>
        have same := List.mem_singleton.1 member
        exact .inr ⟨same, fun slash => absurd (same.symm.trans slash) other⟩

theorem slash_notMem_settledAt {c : Char} {wildcard : Bool} (dividing : wildcard = false ∨ c ≠ '/') :
    '/' ∉ settledAt wildcard c := by
  intro member
  rcases mem_settledAt member with other | ⟨same, slash⟩
  · exact absurd other (by decide)
  · rcases dividing with simple | different
    · cases simple.symm.trans (slash rfl)
    · exact different same.symm

theorem slash_notMem_settledValue (s : List Char) : '/' ∉ settledValue false s := by
  intro member
  obtain ⟨c, _, inside⟩ := List.mem_flatMap.1 member
  exact slash_notMem_settledAt (.inl rfl) inside

/-- The slashes of a value divide its form in a wildcard slot as they divide the value. -/
theorem pieces_settledValue (s : List Char) :
    Slash.pieces (settledValue true s) = (Slash.pieces s).map (settledValue false) := by
  have free (c : Char) (other : c ≠ '/') : '/' ∉ settledAt true c := slash_notMem_settledAt (.inr other)
  rw [settledValue, Slash.pieces_flatMap rfl free]
  refine List.map_congr_left fun piece member => List.flatMap_congr fun c inside => ?_
  have other : c ≠ '/' := fun slash => Slash.notMem_of_mem_pieces member (slash ▸ inside)
  rw [settledAt, settledAt, if_neg fun both => other both.2, if_neg fun both => other both.2]

/-- Decoding undoes the encoding of a value. In between the percent signs of the value are escaped, and its
slashes in a simple slot; in a wildcard slot these stand in their places. -/
theorem restore_unescape_encodeValue (wildcard : Bool) (v : List Char) :
    restore (unescape (encodeValue wildcard v)) = v ∧
      (matchedForm wildcard v = v.flatMap fun c =>
        if c = '%' then ['%', '2', '5'] else if c = '/' ∧ wildcard = false then ['%', '2', 'F'] else [c]) ∧
      '/' ∉ matchedForm false v ∧
      Slash.pieces (matchedForm true v) = (Slash.pieces v).map (matchedForm false) := by
  have forms : matchedForm false = settledValue false := funext (matchedForm_eq false)
  refine ⟨?_, ?_, ?_, ?_⟩
  · rw [(settles_encodeValue wildcard v).unescape, restore_settledValue]
  · rw [matchedForm_eq, settledValue]
    refine List.flatMap_congr fun c _ => ?_
    by_cases slash : c = '/'
    · cases wildcard <;> simp [settledAt, settled, slash]
    · simp [settledAt, settled, slash]
  · rw [forms]
    exact slash_notMem_settledValue v
  · rw [forms, matchedForm_eq, pieces_settledValue]

end UrlRouting.Percent
