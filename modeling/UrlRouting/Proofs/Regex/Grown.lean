import Mathlib.Data.List.TakeWhile
import UrlRouting.Regex.Parse

/-! Reading a text that goes on. What a reader makes of a text by itself it makes of it, too, where a
closing parenthesis follows and then more of the marks that end the matcher of a route. The one exception
is a comment at the end of the text, which takes what follows into it. -/

namespace UrlRouting.Regex

/-- What may follow: a closing parenthesis, and marks that neither end a comment nor name a class. -/
structure Closing (tail : List Char) : Prop where
  head : ∃ more, tail = ')' :: more
  marks : ∀ c ∈ tail, c ∈ [')', '?', '/', '$']

/-- A text and the same text with what follows. Where a comment has taken in what follows, nothing is
left of either. -/
inductive Grown (tail : List Char) : List Char → List Char → Prop
  | more (text : List Char) : Grown tail text (text ++ tail)
  | swallowed : Grown tail [] []

/-- Where the first has a result, so has the second, and the two are related. -/
def Follows {α β : Type} (R : α → β → Prop) (x : Option α) (y : Option β) : Prop :=
  ∀ a, x = some a → ∃ b, y = some b ∧ R a b

/-- The same value, and a rest that has grown. -/
def Same {α : Type} (tail : List Char) (p q : α × List Char) : Prop := p.1 = q.1 ∧ Grown tail p.2 q.2

/-- A result of reading the text alone is one of reading the text with what follows. -/
abbrev Agree {α : Type} (tail : List Char) : Option (α × List Char) → Option (α × List Char) → Prop :=
  Follows (Same tail)

namespace Grown

variable {tail text rest more : List Char} {c : Char}

theorem cons (grown : Grown tail (c :: rest) more) : ∃ later, more = c :: later ∧ Grown tail rest later := by
  cases grown with
  | more => exact ⟨rest ++ tail, rfl, .more rest⟩

theorem uncons (closing : Closing tail) (grown : Grown tail text (c :: more)) (other : c ≠ ')') :
    ∃ rest, text = c :: rest ∧ Grown tail rest more := by
  cases text with
  | nil =>
    obtain ⟨_, head⟩ := closing.head
    generalize whole : c :: more = later at grown
    cases grown with
    | more =>
      rw [head] at whole
      exact absurd (List.cons.inj whole).1 other
    | swallowed => cases whole
  | cons d rest =>
    obtain ⟨later, same, follows⟩ := grown.cons
    cases same
    exact ⟨rest, rfl, follows⟩

theorem head?_iff (closing : Closing tail) (grown : Grown tail text more) {d : Char} (other : d ≠ ')') :
    more.head? = some d ↔ text.head? = some d := by
  constructor
  · intro head
    cases more with
    | nil => cases head
    | cons c more =>
      obtain rfl := Option.some.inj head
      obtain ⟨rest, rfl, _⟩ := grown.uncons closing other
      rfl
  · intro head
    cases text with
    | nil => cases head
    | cons c rest =>
      obtain ⟨later, rfl, _⟩ := grown.cons
      exact head

theorem length_le (grown : Grown tail text more) : text.length ≤ more.length := by
  cases grown with
  | more => simp
  | swallowed => exact Nat.le_refl _

theorem dropComments_inside (closing : Closing tail) : dropComments true tail = [] := by
  have ended : '\n' ∉ tail := fun member => absurd (closing.marks _ member) (by decide)
  clear closing
  induction tail with
  | nil => rfl
  | cons c tail ih =>
    obtain ⟨first, later⟩ := not_or.1 (mt List.mem_cons.2 ended)
    rw [dropComments, if_pos rfl, bne_iff_ne.2 (Ne.symm first)]
    exact ih later

theorem dropComments (closing : Closing tail) (inside : Bool) (text : List Char) :
    Grown tail (dropComments inside text) (Regex.dropComments inside (text ++ tail)) := by
  induction text generalizing inside with
  | nil =>
    cases inside with
    | true =>
      rw [List.nil_append, dropComments_inside closing]
      exact .swallowed
    | false =>
      obtain ⟨later, rfl⟩ := closing.head
      exact .more []
  | cons c text ih =>
    rw [List.cons_append, Regex.dropComments, Regex.dropComments]
    split
    · exact ih _
    · split
      · exact ih _
      · split
        · exact ih _
        · exact .more (c :: text)

theorem skip (closing : Closing tail) (grown : Grown tail text more) (o : Options) :
    Grown tail (o.skip text) (o.skip more) := by
  unfold Options.skip
  split
  · cases grown with
    | more => exact dropComments closing false text
    | swallowed => exact .swallowed
  · exact grown

theorem dropWhile (closing : Closing tail) (grown : Grown tail text more) {p : Char → Bool}
    (stops : p ')' = false) : Grown tail (text.dropWhile p) (more.dropWhile p) := by
  cases grown with
  | swallowed => exact .swallowed
  | more =>
    induction text with
    | nil =>
      obtain ⟨later, rfl⟩ := closing.head
      rw [List.nil_append, List.dropWhile_nil, List.dropWhile_cons_of_neg (by simp [stops])]
      exact .more []
    | cons c text ih =>
      rw [List.cons_append, List.dropWhile_cons, List.dropWhile_cons]
      split
      · exact ih
      · exact .more (c :: text)

/-- What lies behind the first of a character, and before it, where it does not follow the text. -/
theorem upTo (grown : Grown tail text more) {d : Char} (missing : d ∉ tail) :
    Grown tail (text.dropWhile (· != d)) (more.dropWhile (· != d)) ∧
      (text.dropWhile (· != d) ≠ [] → more.takeWhile (· != d) = text.takeWhile (· != d)) := by
  cases grown with
  | swallowed => exact ⟨.swallowed, fun _ => rfl⟩
  | more =>
    induction text with
    | nil =>
      have nothing : tail.dropWhile (· != d) = [] :=
        List.dropWhile_eq_nil_iff.2 fun c member => bne_iff_ne.2 fun same => missing (same ▸ member)
      rw [List.nil_append, List.dropWhile_nil, nothing]
      exact ⟨.swallowed, fun some => absurd rfl some⟩
    | cons c text ih =>
      rw [List.cons_append, List.dropWhile_cons, List.dropWhile_cons, List.takeWhile_cons, List.takeWhile_cons]
      split
      · exact ⟨ih.1, fun some => congrArg (c :: ·) (ih.2 some)⟩
      · exact ⟨.more (c :: text), fun _ => rfl⟩

end Grown

namespace Follows

variable {α β γ δ ε : Type} {R : α → β → Prop} {S : γ → δ → Prop}

theorem none (y : Option β) : Follows R none y := fun _ nothing => nomatch nothing

theorem some {a : α} {b : β} (related : R a b) : Follows R (some a) (some b) := by
  intro a' same
  cases same
  exact ⟨b, rfl, related⟩

theorem bind {x : Option α} {y : Option β} {f : α → Option γ} {g : β → Option δ} (first : Follows R x y)
    (later : ∀ a b, R a b → Follows S (f a) (g b)) : Follows S (x.bind f) (y.bind g) := by
  intro c read
  obtain ⟨a, here, read⟩ := Option.bind_eq_some_iff.1 read
  obtain ⟨b, there, related⟩ := first a here
  obtain ⟨d, read', related'⟩ := later a b related c read
  exact ⟨d, by rw [there, Option.bind_some, read'], related'⟩

/-- Going on with a value and the rest of the text. -/
theorem andThen {tail : List Char} {x y : Option (α × List Char)} {f : α × List Char → Option γ}
    {g : α × List Char → Option δ} (first : Follows (Same tail) x y)
    (later : ∀ a {rest more}, Grown tail rest more → Follows S (f (a, rest)) (g (a, more))) :
    Follows S (x.bind f) (y.bind g) := by
  refine first.bind fun p q same => ?_
  obtain ⟨_, _⟩ := p
  obtain ⟨_, _⟩ := q
  obtain ⟨rfl, grown⟩ := same
  exact later _ grown

/-- A value that does not depend on the text. -/
theorem guard (value : Option ε) {f : ε → Option γ} {g : ε → Option δ}
    (later : ∀ v, Follows S (f v) (g v)) : Follows S (value.bind f) (value.bind g) := by
  cases value with
  | none => exact none _
  | some v => exact later v

theorem ite {p : Prop} [Decidable p] {x z : Option α} {y w : Option β} (yes : Follows R x y)
    (no : Follows R z w) : Follows R (if p then x else z) (if p then y else w) := by
  by_cases holds : p
  · rwa [if_pos holds, if_pos holds]
  · rwa [if_neg holds, if_neg holds]

theorem map {x : Option α} {y : Option β} {f : α → γ} {g : β → δ} (first : Follows R x y)
    (later : ∀ a b, R a b → S (f a) (g b)) : Follows S (x.map f) (y.map g) := by
  intro c read
  obtain ⟨a, here, rfl⟩ := Option.map_eq_some_iff.1 read
  obtain ⟨b, there, related⟩ := first a here
  exact ⟨g b, by rw [there]; rfl, later a b related⟩

end Follows

section Escapes

variable {tail text more : List Char} {o : Options}

theorem agree_hexDigits (closing : Closing tail) (grown : Grown tail text more) (acc count : Nat) :
    Agree tail (hexDigits o acc count text) (hexDigits o acc count more) := by
  induction count generalizing acc text more with
  | zero => exact .some ⟨rfl, grown⟩
  | succ count ih =>
    cases text with
    | nil => exact .none _
    | cons c rest =>
      obtain ⟨later, rfl, follows⟩ := grown.cons
      exact .guard _ fun v => ih (follows.skip closing o) (acc * 16 + v)

theorem agree_bracedHex (closing : Closing tail) (grown : Grown tail text more) (acc : Nat) (some? : Bool)
    {n m : Nat} (enough : n ≤ m) :
    Agree tail (bracedHex o acc some? n text) (bracedHex o acc some? m more) := by
  induction n generalizing acc some? text more m with
  | zero => exact .none _
  | succ n ih =>
    obtain ⟨m, rfl⟩ := Nat.exists_eq_add_one_of_ne_zero (by omega : m ≠ 0)
    cases text with
    | nil => exact .none _
    | cons c rest =>
      obtain ⟨later, rfl, follows⟩ := grown.cons
      have skipped := follows.skip closing o
      refine .ite (.ite (.some ⟨rfl, skipped⟩) (.none _)) (.guard _ fun v => .ite ?_ (.none _))
      exact ih skipped _ _ (Nat.le_of_succ_le_succ enough)

theorem agree_hexEscape (closing : Closing tail) (grown : Grown tail text more) (digits : Nat) :
    Agree tail (hexEscape o digits text) (hexEscape o digits more) := by
  have skipped := grown.skip closing o
  have lengths := grown.length_le
  unfold hexEscape
  generalize o.skip text = here, o.skip more = there at skipped
  cases here with
  | nil => exact .none _
  | cons c rest =>
    obtain ⟨later, rfl, follows⟩ := skipped.cons
    split
    next none => cases none
    next same =>
      cases same
      exact (agree_bracedHex closing (follows.skip closing o) 0 false lengths).andThen fun n _ _ grown =>
        .guard _ fun c => .some ⟨rfl, grown⟩
    next _ other =>
      split
      next none => cases none
      next same =>
        cases same
        exact (other _ rfl).elim
      next =>
        exact (agree_hexDigits closing skipped 0 digits).andThen fun n _ _ grown =>
          .guard _ fun c => .some ⟨rfl, grown⟩

theorem agree_bracedName (closing : Closing tail) (grown : Grown tail text more) {n m : Nat}
    (enough : n ≤ m) : Agree tail (bracedName o n text) (bracedName o m more) := by
  induction n generalizing text more m with
  | zero => exact .none _
  | succ n ih =>
    obtain ⟨m, rfl⟩ := Nat.exists_eq_add_one_of_ne_zero (by omega : m ≠ 0)
    cases text with
    | nil => exact .none _
    | cons c rest =>
      obtain ⟨later, rfl, follows⟩ := grown.cons
      refine .ite (.some ⟨rfl, follows⟩) ?_
      exact (ih (follows.skip closing o) (Nat.le_of_succ_le_succ enough)).map fun p q same =>
        ⟨congrArg (c :: ·) same.1, same.2⟩

theorem agree_edgeName (closing : Closing tail) (grown : Grown tail text more) {n m : Nat}
    (enough : n ≤ m) : Agree tail (edgeName o n text) (edgeName o m more) := by
  induction n generalizing text more m with
  | zero => exact .none _
  | succ n ih =>
    obtain ⟨m, rfl⟩ := Nat.exists_eq_add_one_of_ne_zero (by omega : m ≠ 0)
    cases text with
    | nil => exact .none _
    | cons c rest =>
      obtain ⟨later, rfl, follows⟩ := grown.cons
      refine .ite ?_ (.ite (.some ⟨rfl, follows⟩) (.none _))
      exact (ih (follows.skip closing o) (Nat.le_of_succ_le_succ enough)).map fun p q same =>
        ⟨congrArg (c :: ·) same.1, same.2⟩

theorem agree_propertyEscape (closing : Closing tail) (grown : Grown tail text more) (negated : Bool) :
    Agree tail (propertyEscape o negated text) (propertyEscape o negated more) := by
  have skipped := grown.skip closing o
  have lengths := grown.length_le
  unfold propertyEscape
  generalize o.skip text = here, o.skip more = there at skipped
  refine Follows.bind (R := fun p q => p.1 = q.1 ∧ Same tail p.2 q.2) ?_ fun p q same => ?_
  · cases here with
    | nil => exact .none _
    | cons c rest =>
      obtain ⟨later, rfl, follows⟩ := skipped.cons
      split
      next none => cases none
      next same =>
        cases same
        exact (agree_bracedName closing (follows.skip closing o) lengths).andThen fun name _ _ grown =>
          .guard _ fun set => .some ⟨rfl, rfl, grown⟩
      next => exact .none _
      next braceless slashless same =>
        cases same
        split
        next none => cases none
        next same =>
          cases same
          exact (braceless rfl).elim
        next same =>
          cases same
          exact (slashless rfl).elim
        next same =>
          cases same
          exact .guard _ fun set => .some ⟨rfl, rfl, follows.skip closing o⟩
  · obtain ⟨_, _, _⟩ := p
    obtain ⟨_, _, _⟩ := q
    obtain ⟨rfl, rfl, grown⟩ := same
    exact .ite (.some ⟨rfl, grown⟩) (.none _)

theorem edgeEscape_of_head? {text : List Char} (plain : text.head? ≠ some '\x7b') :
    edgeEscape o text = some (.anchor (.word .edge (!o.unicode)), text) := by
  unfold edgeEscape
  split
  next => exact absurd rfl plain
  next => rfl

theorem agree_edgeEscape (closing : Closing tail) (grown : Grown tail text more) :
    Agree tail (edgeEscape o text) (edgeEscape o more) := by
  have lengths := grown.length_le
  by_cases brace : text.head? = some '\x7b'
  · obtain ⟨rest, rfl⟩ := List.head?_eq_some_iff.1 brace
    obtain ⟨later, rfl, follows⟩ := grown.cons
    have skipped := follows.skip closing o
    simp only [edgeEscape]
    generalize o.skip rest = here, o.skip later = there at skipped
    cases here with
    | nil => exact .none _
    | cons c rest' =>
      obtain ⟨later', rfl, _⟩ := skipped.cons
      refine Follows.ite ?_ ?_
      · exact (agree_edgeName closing skipped lengths).andThen fun name _ _ grown =>
          .guard _ fun kind => .some ⟨rfl, grown⟩
      · exact .some ⟨rfl, grown⟩
  · have plain : more.head? ≠ some '\x7b' := fun head =>
      brace ((grown.head?_iff closing (d := '\x7b') (by decide)).1 head)
    rw [edgeEscape_of_head? brace, edgeEscape_of_head? plain]
    exact .some ⟨rfl, grown⟩

theorem agree_escape? (closing : Closing tail) (grown : Grown tail text more) :
    Agree tail (escape? o text) (escape? o more) := by
  cases text with
  | nil => exact .none _
  | cons c rest =>
    obtain ⟨later, rfl, follows⟩ := grown.cons
    unfold escape?
    dsimp only
    split
    case h_1 => exact agree_hexEscape closing follows 2
    case h_2 => exact agree_hexEscape closing follows 4
    case h_3 => exact agree_hexEscape closing follows 8
    case h_4 => exact agree_propertyEscape closing follows false
    case h_5 => exact agree_propertyEscape closing follows true
    case h_14 => exact agree_edgeEscape closing follows
    case h_18 =>
      cases perlSet? o c with
      | some set => exact .some ⟨rfl, follows⟩
      | none => exact .ite (.some ⟨rfl, follows⟩) (.none _)
    all_goals exact .some ⟨rfl, follows⟩

end Escapes

end UrlRouting.Regex
