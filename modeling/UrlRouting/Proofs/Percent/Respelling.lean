import UrlRouting.Proofs.Percent.Octets
import UrlRouting.Proofs.Text.Slash

/-! Spellings of one path. A character may be escaped or not, the digits of an escape may be in either
case, and a blank may be a plus sign. None of this can be told from the decoded path, nor moves the
slashes. -/

namespace UrlRouting.Percent
open Slash

/-- A character that makes no difference by being escaped. -/
def Free (c : Char) : Prop := c ≠ '/' ∧ c ≠ '%' ∧ c ≠ '+' ∧ c ≠ '?' ∧ c ≠ '#'

instance (c : Char) : Decidable (Free c) := inferInstanceAs (Decidable (_ ∧ _))

def blanks : List (List Char) := [[' '], ['+'], ['%', '2', '0']]

/-- Two spellings of one place of a path. -/
inductive Variant : List Char → List Char → Prop
  | same {c : Char} (plain : c ≠ '%') : Variant [c] [c]
  | digits {b : UInt8} {x y : List Char} (left : Escape b x) (right : Escape b y) : Variant x y
  | escaped {c : Char} {x : List Char} (free : Free c)
      (escapes : Escapes (String.utf8EncodeChar c) x) : Variant [c] x
  | unescaped {c : Char} {x : List Char} (free : Free c)
      (escapes : Escapes (String.utf8EncodeChar c) x) : Variant x [c]
  | blank {x y : List Char} (left : x ∈ blanks)
      (right : y ∈ blanks) : Variant x y

/-- Two spellings of one path, in which a percent sign always begins an escape. -/
inductive Respelled : List Char → List Char → Prop
  | nil : Respelled [] []
  | cons {x y s t : List Char} (first : Variant x y) (rest : Respelled s t) : Respelled (x ++ s) (y ++ t)

/-- The atoms are decoded to the same, whatever stands around them. -/
def Alike (as bs : List Atom) : Prop :=
  ∀ pending rest, resolve? pending (as ++ rest) = resolve? pending (bs ++ rest)

theorem resolve?_append_congr (as : List Atom) {rest more : List Atom}
    (same : ∀ pending, resolve? pending rest = resolve? pending more) (pending : List UInt8) :
    resolve? pending (as ++ rest) = resolve? pending (as ++ more) := by
  induction as generalizing pending with
  | nil => exact same pending
  | cons a as ih =>
    simp only [List.cons_append]
    cases a <;> simp only [resolve?, ih]

theorem Alike.append {as bs cs ds : List Atom} (left : Alike as bs) (right : Alike cs ds) :
    Alike (as ++ cs) (bs ++ ds) := fun pending rest => by
  rw [List.append_assoc, List.append_assoc, left, resolve?_append_congr bs fun p => right p rest]

theorem slash_notMem_escape {b : UInt8} {x : List Char} (escape : Escape b x) : '/' ∉ x := by
  obtain ⟨h, l, high, low, first, second, _, rfl⟩ := escape
  have digit {c : Char} {n : Nat} (value : hexValue? c = some n) : '/' ≠ c := by
    intro same
    subst same
    cases value
  simp only [List.mem_cons, List.not_mem_nil, or_false, not_or]
  exact ⟨by decide, digit first, digit second⟩

theorem slash_notMem_escapes {bytes : List UInt8} {x : List Char} (escapes : Escapes bytes x) :
    '/' ∉ x := by
  induction escapes with
  | nil => exact List.not_mem_nil
  | cons first _ ih => exact fun member => (List.mem_append.1 member).elim (slash_notMem_escape first) ih

theorem reads_blank {x : List Char} (blank : x ∈ blanks) :
    ∃ as, Reads x as ∧ Alike as [.char ' '] := by
  simp only [blanks, List.mem_cons, List.not_mem_nil, or_false] at blank
  rcases blank with rfl | rfl | rfl
  · exact ⟨_, reads_char (by decide), fun _ _ => rfl⟩
  · exact ⟨_, reads_char (by decide), fun _ _ => rfl⟩
  · exact ⟨_, reads_escape ⟨'2', '0', 2, 0, rfl, rfl, rfl, rfl⟩, fun _ _ => rfl⟩

theorem alike_escapes {c : Char} (free : Free c) :
    Alike ((String.utf8EncodeChar c).map .ofByte) [.char (blanked c)] := fun pending rest => by
  rw [resolve?_escapes free.1 free.2.1, blanked, if_neg free.2.2.1]
  rfl

/-- Both spellings of a place are read, and decoded to the same. -/
theorem Variant.reads {x y : List Char} (variant : Variant x y) :
    ∃ as bs, Reads x as ∧ Reads y bs ∧ Alike as bs := by
  cases variant with
  | same plain => exact ⟨_, _, reads_char plain, reads_char plain, fun _ _ => rfl⟩
  | digits left right => exact ⟨_, _, reads_escape left, reads_escape right, fun _ _ => rfl⟩
  | escaped free escapes =>
    exact ⟨_, _, reads_char free.2.1, reads_escapes escapes,
      fun pending rest => (alike_escapes free pending rest).symm⟩
  | unescaped free escapes =>
    exact ⟨_, _, reads_escapes escapes, reads_char free.2.1, alike_escapes free⟩
  | blank left right =>
    obtain ⟨as, reads_left, alike_left⟩ := reads_blank left
    obtain ⟨bs, reads_right, alike_right⟩ := reads_blank right
    exact ⟨as, bs, reads_left, reads_right,
      fun pending rest => (alike_left pending rest).trans (alike_right pending rest).symm⟩

theorem Respelled.reads {x y : List Char} (respelled : Respelled x y) :
    ∃ as bs, Reads x as ∧ Reads y bs ∧ Alike as bs := by
  induction respelled with
  | nil => exact ⟨[], [], reads_nil, reads_nil, fun _ _ => rfl⟩
  | cons first _ ih =>
    obtain ⟨as, bs, reads_x, reads_y, alike⟩ := first.reads
    obtain ⟨cs, ds, reads_s, reads_t, alike_rest⟩ := ih
    exact ⟨_, _, reads_x.append reads_s, reads_y.append reads_t, alike.append alike_rest⟩

theorem Respelled.unescape_eq {x y : List Char} (respelled : Respelled x y)
    (valid : Valid (octets x)) : unescape x = unescape y := by
  obtain ⟨as, bs, reads_x, reads_y, alike⟩ := respelled.reads
  have decoded := isSome_resolve?_atoms x
  have same := alike [] []
  rw [List.append_nil, List.append_nil] at same
  obtain ⟨text, found⟩ := Option.isSome_iff_exists.1 (decoded.2 valid)
  rw [reads_x.atoms] at found
  rw [unescape, unescape, reads_x.atoms, reads_y.atoms, ← same, found]
  rfl

theorem Variant.slash {x y : List Char} (variant : Variant x y) :
    x = ['/'] ∧ y = ['/'] ∨ x ≠ [] ∧ '/' ∉ x ∧ y ≠ [] ∧ '/' ∉ y := by
  have char {c : Char} (other : c ≠ '/') : [c] ≠ [] ∧ '/' ∉ [c] :=
    ⟨List.cons_ne_nil _ _, fun member => other (List.mem_singleton.1 member).symm⟩
  have blank {x : List Char} (blank : x ∈ blanks) : x ≠ [] ∧ '/' ∉ x := by
    simp only [blanks, List.mem_cons, List.not_mem_nil, or_false] at blank
    rcases blank with rfl | rfl | rfl <;> decide
  cases variant with
  | @same c _ =>
    by_cases slash : c = '/'
    · exact .inl ⟨by rw [slash], by rw [slash]⟩
    · exact .inr ⟨(char slash).1, (char slash).2, char slash⟩
  | digits left right =>
    exact .inr ⟨escape_ne_nil left, slash_notMem_escape left, escape_ne_nil right, slash_notMem_escape right⟩
  | escaped free escapes =>
    exact .inr ⟨(char free.1).1, (char free.1).2, escapes_ne_nil escapes (utf8EncodeChar_ne_nil _),
      slash_notMem_escapes escapes⟩
  | unescaped free escapes =>
    exact .inr ⟨escapes_ne_nil escapes (utf8EncodeChar_ne_nil _), slash_notMem_escapes escapes, char free.1⟩
  | blank left right => exact .inr ⟨(blank left).1, (blank left).2, blank right⟩

theorem Respelled.nil_iff {x y : List Char} (respelled : Respelled x y) : x = [] ↔ y = [] := by
  cases respelled with
  | nil => exact Iff.rfl
  | cons first _ =>
    rcases first.slash with ⟨rfl, rfl⟩ | ⟨present, _, present', _⟩
    · exact ⟨nofun, nofun⟩
    · simp [present, present']

theorem head?_append_of_slashless {x : List Char} (present : x ≠ []) (slashless : '/' ∉ x)
    (s : List Char) : (x ++ s).head? ≠ some '/' := by
  rw [List.head?_append_of_ne_nil x present]
  exact fun head => slashless (List.mem_of_head? head)

theorem Respelled.front {x y : List Char} (respelled : Respelled x y) :
    ∃ n s t, x = run n ++ s ∧ y = run n ++ t ∧ Respelled s t ∧ s.head? ≠ some '/' ∧
      t.head? ≠ some '/' := by
  induction respelled with
  | nil => exact ⟨0, [], [], rfl, rfl, .nil, by simp, by simp⟩
  | cons first rest ih =>
    rcases first.slash with ⟨rfl, rfl⟩ | ⟨present, slashless, present', slashless'⟩
    · obtain ⟨n, s, t, rfl, rfl, inner, heads⟩ := ih
      exact ⟨n + 1, s, t, rfl, rfl, inner, heads⟩
    · exact ⟨0, _, _, rfl, rfl, .cons first rest, head?_append_of_slashless present slashless _,
        head?_append_of_slashless present' slashless' _⟩

theorem Respelled.back {x y : List Char} (respelled : Respelled x y) :
    ∃ n s t, x = s ++ run n ∧ y = t ++ run n ∧ Respelled s t ∧ s.getLast? ≠ some '/' ∧
      t.getLast? ≠ some '/' := by
  induction respelled with
  | nil => exact ⟨0, [], [], rfl, rfl, .nil, by simp, by simp⟩
  | @cons x y _ _ first rest ih =>
    obtain ⟨n, s, t, rfl, rfl, inner, last, last'⟩ := ih
    by_cases missing : s = []
    · obtain rfl := missing
      obtain rfl := inner.nil_iff.1 rfl
      rcases first.slash with ⟨rfl, rfl⟩ | ⟨present, slashless, present', slashless'⟩
      · exact ⟨n + 1, [], [], rfl, rfl, .nil, by simp, by simp⟩
      · refine ⟨n, x, y, rfl, rfl, ?_, ?_, ?_⟩
        · simpa using Respelled.cons first .nil
        · exact fun last => slashless (List.mem_of_getLast? last)
        · exact fun last => slashless' (List.mem_of_getLast? last)
    · have missing' : t ≠ [] := fun missing' => missing (inner.nil_iff.2 missing')
      refine ⟨n, x ++ s, y ++ t, (List.append_assoc _ _ _).symm, (List.append_assoc _ _ _).symm,
        .cons first inner, ?_, ?_⟩
      · rwa [List.getLast?_append_of_ne_nil _ missing]
      · rwa [List.getLast?_append_of_ne_nil _ missing']

/-- Both paths lose the same slashes at their ends. -/
theorem Respelled.exists_trim {x y : List Char} (respelled : Respelled x y) :
    ∃ a b, x = run a ++ trim x ++ run b ∧ y = run a ++ trim y ++ run b ∧
      Respelled (trim x) (trim y) := by
  obtain ⟨a, s, t, rfl, rfl, inner, head, head'⟩ := respelled.front
  obtain ⟨b, s, t, rfl, rfl, core, last, last'⟩ := inner.back
  have bare {s : List Char} (head : (s ++ run b).head? ≠ some '/') (last : s.getLast? ≠ some '/') :
      Bare s := by
    refine ⟨fun first => head ?_, last⟩
    rw [List.head?_append, first]
    rfl
  have trimmed := trim_eq_of_bare (bare head last) a b
  have trimmed' := trim_eq_of_bare (bare head' last') a b
  rw [List.append_assoc] at trimmed trimmed'
  rw [trimmed, trimmed']
  exact ⟨a, b, (List.append_assoc _ _ _).symm, (List.append_assoc _ _ _).symm, core⟩

theorem octets_slash (x : List Char) : octets ('/' :: x) = 0x2F :: octets x := octets_cons (by decide) x

theorem valid_slash_iff {bytes : List UInt8} : Valid (0x2F :: bytes) ↔ Valid bytes := by
  have cut := exists_encoded_iff (b := 0x2F) (by decide) [] bytes
  rw [List.nil_append] at cut
  exact cut.trans ⟨And.right, fun valid => ⟨⟨[], rfl⟩, valid⟩⟩

theorem valid_of_run_append {x : List Char} (n : Nat) (valid : Valid (octets (run n ++ x))) :
    Valid (octets x) := by
  induction n with
  | zero => exact valid
  | succ n ih =>
    change Valid (octets ('/' :: (run n ++ x))) at valid
    rw [octets_slash] at valid
    exact ih (valid_slash_iff.1 valid)

theorem valid_of_append_run {x : List Char} {as : List Atom} (reads : Reads x as) (n : Nat)
    (valid : Valid (octets (x ++ run n))) : Valid (octets x) := by
  cases n with
  | zero => rwa [run, List.replicate_zero, List.append_nil] at valid
  | succ n =>
    have parts : octets (x ++ run (n + 1)) = octets x ++ 0x2F :: octets (run n) := by
      rw [octets_eq, reads, List.flatMap_append, ← octets_eq, octets_eq x, reads.atoms]
      exact congrArg _ (octets_slash (run n))
    rw [parts] at valid
    exact ((exists_encoded_iff (by decide) _ _).1 valid).1

/-- Two spellings give one path to be matched. -/
theorem Respelled.unescape_rooted {x y : List Char} (respelled : Respelled x y)
    (valid : Valid (octets x)) : unescape (rooted x) = unescape (rooted y) := by
  obtain ⟨a, b, parts, _, core⟩ := respelled.exists_trim
  obtain ⟨as, _, reads, _, _⟩ := core.reads
  have path : Respelled (rooted x) (rooted y) := .cons (.same (c := '/') (by decide)) core
  apply path.unescape_eq
  rw [rooted, octets_slash, valid_slash_iff]
  rw [parts, List.append_assoc] at valid
  exact valid_of_append_run reads b (valid_of_run_append a valid)

end UrlRouting.Percent
