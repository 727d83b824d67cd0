import Mathlib.Data.List.Forall2
import UrlRouting.Proofs.Json.Text

/-! Documents as they are written in JSON. A text spells a document if reading finds the document at its
start and leaves what follows; lists and tables spell theirs if their members do. The fuel of reading is
never used up, as there is a character for each value and each entry. -/

namespace UrlRouting.Json

variable {text rest : List Char} {d : Document} {fuel : Nat}

/-- The text is read as the document, whatever follows it that continues no number. -/
structure Spells (text : List Char) (d : Document) : Prop where
  starts : ∃ c more, text = c :: more ∧ isSpace c = false ∧ c ≠ ']'
  read : ∀ fuel rest, text.length ≤ fuel → Stops continuesNumber rest →
    value? fuel (text ++ rest) = some (d, rest)

theorem skip_cons {c : Char} (dark : isSpace c = false) (rest : List Char) : skip (c :: rest) = c :: rest :=
  (stops_cons dark rest).dropWhile_eq

/-- The fuel for the first character is that for the value itself. -/
theorem Spells.of_succ {c : Char} (more : List Char) (dark : isSpace c = false) (opens : c ≠ ']')
    (read : ∀ fuel rest, more.length ≤ fuel → Stops continuesNumber rest →
      value? (fuel + 1) (c :: (more ++ rest)) = some (d, rest)) : Spells (c :: more) d := by
  refine ⟨⟨c, more, rfl, dark, opens⟩, fun fuel rest enough stops => ?_⟩
  rw [List.length_cons] at enough
  obtain ⟨fuel, rfl⟩ : ∃ n, fuel = n + 1 := ⟨fuel - 1, by omega⟩
  exact read fuel rest (by omega) stops

theorem spells_text (s : String) : Spells (writeText s) (.ofText s) := by
  refine .of_succ (s.toList.flatMap writeChar ++ ['"']) (by decide) (by decide) fun fuel rest _ _ => ?_
  have quoted := string?_flatMap_writeChar s.toList rest
  rw [List.append_assoc, List.singleton_append, value?, skip_cons (by decide)]
  simp only [quoted, Option.map_some, String.ofList_toList]

theorem spells_null : Spells "null".toList (.ofScalar .null) := by
  refine .of_succ _ (by decide) (by decide) fun fuel rest _ _ => ?_
  rw [value?, skip_cons (by decide)]
  rfl

/-- Nothing but a number begins with a digit or a minus sign. -/
theorem value?_number {c : Char} (sign : c = '-' ∨ isDigit c = true) (fuel : Nat) (more : List Char) :
    isSpace c = false ∧ c ≠ ']' ∧
      value? (fuel + 1) (c :: more) = (number? (c :: more)).map fun p => (.ofScalar p.1, p.2) := by
  have ne (x : Char) (other : ¬(x = '-' ∨ isDigit x = true)) : c ≠ x := fun same => other (same ▸ sign)
  have dark : isSpace c = false := by
    simp [isSpace, ne ' ' (by decide), ne '\n' (by decide), ne '\t' (by decide), ne '\r' (by decide)]
  refine ⟨dark, ne ']' (by decide), ?_⟩
  simp [value?, skip_cons dark, ne '"' (by decide), ne '[' (by decide), ne '\x7b' (by decide),
    ne 'n' (by decide), ne 't' (by decide), ne 'f' (by decide)]

theorem spells_int (i : Int64) : Spells (toString i.toInt).toList (.ofScalar (.int i)) := by
  obtain ⟨c, more, split, sign⟩ : ∃ c more, (toString i.toInt).toList = c :: more ∧
      (c = '-' ∨ isDigit c = true) := by
    rw [Int.toString_eq_repr]
    cases i.toInt with
    | ofNat n =>
      obtain ⟨c, more, split, digit⟩ := exists_head?_toDigits n
      exact ⟨c, more, by rw [Int.repr, Nat.toList_repr, split], .inr digit⟩
    | negSucc n => exact ⟨'-', _, by rw [Int.repr, String.toList_append]; rfl, .inl rfl⟩
  rw [split]
  obtain ⟨dark, opens, _⟩ := value?_number sign 0 more
  refine .of_succ more dark opens fun fuel rest _ stops => ?_
  have number := number?_toString i stops
  rw [split, List.cons_append] at number
  rw [(value?_number sign fuel (more ++ rest)).2.2, number]
  rfl

/-! Lists. -/

theorem stops_of_mark {c : Char} (mark : c = ',' ∨ c = ']' ∨ c = '\x7d') (rest : List Char) :
    Stops continuesNumber (c :: rest) := by
  refine stops_cons ?_ rest
  rcases mark with rfl | rfl | rfl <;> decide

theorem commaSeparated_cons {texts : List (List Char)} (present : texts ≠ []) (text : List Char) :
    commaSeparated (text :: texts) = text ++ ',' :: commaSeparated texts := by
  cases texts with
  | nil => exact absurd rfl present
  | cons next texts => rfl

theorem items?_commaSeparated {texts : List (List Char)} {ds : List Document}
    (each : List.Forall₂ Spells texts ds) (present : texts ≠ [])
    (enough : (commaSeparated texts).length < fuel) (rest : List Char) :
    items? fuel (commaSeparated texts ++ ']' :: rest) = some (ds, rest) := by
  induction each generalizing fuel with
  | nil => exact absurd rfl present
  | @cons text d texts ds first later ih =>
    obtain ⟨fuel, rfl⟩ : ∃ n, fuel = n + 1 := ⟨fuel - 1, by omega⟩
    by_cases last : texts = []
    · subst last
      cases later
      have read := first.read fuel (']' :: rest) (Nat.lt_succ_iff.1 enough) (stops_of_mark (by simp) rest)
      rw [commaSeparated, items?, read]
      rfl
    · rw [commaSeparated_cons last, List.length_append, List.length_cons] at enough
      have read := first.read fuel (',' :: (commaSeparated texts ++ ']' :: rest)) (by omega)
        (stops_of_mark (by simp) _)
      have more := @ih fuel last (by omega)
      rw [commaSeparated_cons last, List.append_assoc, List.cons_append, items?, read]
      simp only [Option.bind_eq_bind, Option.bind_some, skip_cons (by decide : isSpace ',' = false), more,
        Option.map_some]

theorem exists_head_commaSeparated {texts : List (List Char)} {ds : List Document}
    (each : List.Forall₂ Spells texts ds) (present : texts ≠ []) :
    ∃ c more, commaSeparated texts = c :: more ∧ isSpace c = false ∧ c ≠ ']' := by
  cases each with
  | nil => exact absurd rfl present
  | @cons text d texts ds first later =>
    obtain ⟨c, more, split, dark, opens⟩ := first.starts
    by_cases last : texts = []
    · subst last
      exact ⟨c, more, split, dark, opens⟩
    · refine ⟨c, more ++ ',' :: commaSeparated texts, ?_, dark, opens⟩
      rw [commaSeparated_cons last, split, List.cons_append]

theorem spells_list {texts : List (List Char)} {ds : List Document} (each : List.Forall₂ Spells texts ds) :
    Spells (writeList texts) (.list ds) := by
  refine .of_succ (commaSeparated texts ++ [']']) (by decide) (by decide) fun fuel rest enough _ => ?_
  rw [List.append_assoc, List.singleton_append, value?, skip_cons (by decide)]
  by_cases missing : texts = []
  · subst missing
    cases each
    rfl
  · rw [List.length_append, List.length_singleton] at enough
    obtain ⟨c, more, split, dark, opens⟩ := exists_head_commaSeparated each missing
    have items := items?_commaSeparated each missing enough rest
    rw [split, List.cons_append] at items ⊢
    simp [skip_cons dark, opens, items]

/-! Tables. -/

/-- A name and a text, and the entry that they are read as. -/
def SpellsEntry (written : String × List Char) (entry : String × Document) : Prop :=
  written.1 = entry.1 ∧ Spells written.2 entry.2

def entryTexts (written : List (String × List Char)) : List (List Char) :=
  written.map fun e => writeEntry e.1 e.2

theorem entries?_writeEntry {value : List Char} (name : String) (spells : Spells value d) {c : Char}
    (mark : c = ',' ∨ c = '\x7d') (enough : (writeEntry name value).length ≤ fuel) (rest : List Char) :
    entries? (fuel + 1) (writeEntry name value ++ c :: rest) =
      if c = ',' then (entries? fuel rest).map fun p => ((name, d) :: p.1, p.2)
      else some ([(name, d)], rest) := by
  have short : value.length ≤ fuel := by
    rw [writeEntry, List.length_append, List.length_cons] at enough
    omega
  have quoted := string?_flatMap_writeChar name.toList (':' :: (value ++ c :: rest))
  have read := spells.read fuel (c :: rest) short (stops_of_mark (mark.imp_right .inr) rest)
  have text : writeEntry name value ++ c :: rest =
      '"' :: (name.toList.flatMap writeChar ++ '"' :: ':' :: (value ++ c :: rest)) := by
    simp [writeEntry, writeText]
  rw [text, entries?, skip_cons (by decide)]
  simp only [quoted, Option.bind_eq_bind, Option.bind_some, skip_cons (by decide : isSpace ':' = false), read,
    String.ofList_toList]
  rcases mark with rfl | rfl
  · rw [skip_cons (by decide), if_pos rfl]
    rfl
  · rw [skip_cons (by decide), if_neg (by decide)]
    rfl

theorem entries?_commaSeparated {written : List (String × List Char)} {entries : List (String × Document)}
    (each : List.Forall₂ SpellsEntry written entries) (present : written ≠ [])
    (enough : (commaSeparated (entryTexts written)).length < fuel) (rest : List Char) :
    entries? fuel (commaSeparated (entryTexts written) ++ '\x7d' :: rest) = some (entries, rest) := by
  induction each generalizing fuel with
  | nil => exact absurd rfl present
  | @cons e entry written entries first later ih =>
    obtain ⟨name, value⟩ := e
    obtain ⟨key, d⟩ := entry
    obtain ⟨rfl, spells⟩ : name = key ∧ Spells value d := first
    obtain ⟨fuel, rfl⟩ : ∃ n, fuel = n + 1 := ⟨fuel - 1, by omega⟩
    have texts : entryTexts ((name, value) :: written) = writeEntry name value :: entryTexts written := rfl
    rw [texts] at enough ⊢
    by_cases last : written = []
    · subst last
      cases later
      exact entries?_writeEntry name spells (.inr rfl) (Nat.lt_succ_iff.1 enough) rest
    · have more : entryTexts written ≠ [] := fun none => last (List.map_eq_nil_iff.1 none)
      rw [commaSeparated_cons more, List.length_append, List.length_cons] at enough
      rw [commaSeparated_cons more, List.append_assoc, List.cons_append,
        entries?_writeEntry name spells (.inl rfl) (by omega), if_pos rfl, ih last (by omega)]
      rfl

theorem spells_table {written : List (String × List Char)} {entries : List (String × Document)}
    (each : List.Forall₂ SpellsEntry written entries) : Spells (writeTable written) (.table entries) := by
  refine .of_succ (commaSeparated (entryTexts written) ++ ['\x7d']) (by decide) (by decide)
    fun fuel rest enough _ => ?_
  rw [List.append_assoc, List.singleton_append, value?, skip_cons (by decide)]
  by_cases missing : written = []
  · subst missing
    cases each
    rfl
  · rw [List.length_append, List.length_singleton] at enough
    obtain ⟨more, split⟩ : ∃ more, commaSeparated (entryTexts written) = '"' :: more := by
      obtain ⟨e, others, rfl⟩ := List.exists_cons_of_ne_nil missing
      cases others <;> exact ⟨_, rfl⟩
    have read := entries?_commaSeparated each missing enough rest
    rw [split, List.cons_append] at read ⊢
    simp [skip_cons (by decide : isSpace '"' = false), read]

theorem read?_of_spells {text : String} (spells : Spells text.toList d) : read? text = some d := by
  have whole := spells.read (2 * text.toList.length + 2) [] (by omega) (stops_nil _)
  rw [List.append_nil] at whole
  rw [read?, whole]
  rfl

end UrlRouting.Json
