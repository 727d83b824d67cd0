import Mathlib.Data.Option.Basic
import UrlRouting.Proofs.Regex.Grown

/-! Reading a bracketed set in a text that goes on. A set ends with a bracket of its own, so what
follows the text is never looked at: the one thing to see is that no sign of two characters, and no name
of a class, has its second half there. -/

namespace UrlRouting.Regex

section Brackets

variable {tail text rest later more : List Char} {o : Options}

theorem agree_bracketItem? (closing : Closing tail) (grown : Grown tail text more) :
    Agree tail (bracketItem? o text) (bracketItem? o more) := by
  fun_cases bracketItem? o text with
  | case1 => exact .none _
  | case2 rest =>
    obtain ⟨later, rfl, follows⟩ := grown.cons
    exact agree_escape? closing follows
  | case3 c rest plain =>
    obtain ⟨later, rfl, follows⟩ := grown.cons
    rw [bracketItem?]
    · exact .some ⟨rfl, follows⟩
    · exact plain

/-- Blanks, and a hash sign with the blanks after it. -/
def afterBlanks (text : List Char) : List Char :=
  match text.dropWhile Unicode.isBlank with
  | '#' :: more => more.dropWhile Unicode.isBlank
  | other => other

theorem peekPast_eq (o : Options) (c : Char) (rest : List Char) : peekPast o (c :: rest) =
    if o.verbose then (afterBlanks rest).head?.or rest.head? else rest.head? := by
  unfold peekPast
  refine ite_congr rfl (fun _ => ?_) fun _ => rfl
  dsimp only
  split
  next c later found =>
    have found : afterBlanks rest = c :: later := found
    rw [found]
    rfl
  next ended =>
    have ended : afterBlanks rest = [] := ended
    rw [ended]
    rfl

theorem head?_ne_of_afterBlanks {d : Char} (solid : Unicode.isBlank d = false) (hashless : d ≠ '#')
    (nothing : afterBlanks text = []) : text.head? ≠ some d := by
  intro head
  obtain ⟨rest, rfl⟩ : ∃ rest, text = d :: rest := by
    cases text with
    | nil => cases head
    | cons c rest => exact ⟨rest, by rw [Option.some.inj head]⟩
  rw [afterBlanks, List.dropWhile_cons_of_neg (by simp [solid])] at nothing
  split at nothing
  next same => exact hashless (List.cons.inj same).1
  next => cases nothing

theorem Grown.afterBlanks (closing : Closing tail) (grown : Grown tail text more) :
    Grown tail (afterBlanks text) (Regex.afterBlanks more) := by
  have dropped := grown.dropWhile closing (p := Unicode.isBlank) (by decide +kernel)
  unfold Regex.afterBlanks
  generalize text.dropWhile Unicode.isBlank = here, more.dropWhile Unicode.isBlank = there at dropped
  split
  next =>
    obtain ⟨later, rfl, follows⟩ := dropped.cons
    exact follows.dropWhile closing (by decide +kernel)
  next plain =>
    split
    next =>
      obtain ⟨rest, rfl, _⟩ := dropped.uncons closing (by decide)
      exact (plain _ rfl).elim
    next => exact dropped

theorem Grown.peekPast_beq (closing : Closing tail) (grown : Grown tail rest later) (o : Options) (c : Char)
    {d : Char} (solid : Unicode.isBlank d = false) (hashless : d ≠ '#') (other : d ≠ ')') :
    (peekPast o (c :: later) == some d) = (peekPast o (c :: rest) == some d) := by
  have blanks (text : List Char) : (Regex.afterBlanks text).head?.or text.head? = some d ↔
      (Regex.afterBlanks text).head? = some d := by
    cases after : Regex.afterBlanks text with
    | nil => exact iff_of_false (head?_ne_of_afterBlanks solid hashless after) nofun
    | cons _ _ => exact Iff.rfl
  rw [Bool.eq_iff_iff, beq_iff_eq, beq_iff_eq, peekPast_eq, peekPast_eq]
  split
  · rw [blanks, blanks, (grown.afterBlanks closing).head?_iff closing other]
  · exact grown.head?_iff closing other

theorem agree_member? (closing : Closing tail) (grown : Grown tail text more) :
    Agree tail (member? o text) (member? o more) := by
  refine (agree_bracketItem? closing grown).andThen fun first rest later follows => ?_
  have skipped := follows.skip closing o
  dsimp only
  generalize o.skip rest = here, o.skip later = there at skipped
  cases here with
  | nil => exact .none _
  | cons c rest =>
    obtain ⟨later, rfl, follows⟩ := skipped.cons
    dsimp only
    rw [follows.peekPast_beq closing o c (by decide +kernel) (by decide) (by decide),
      follows.peekPast_beq closing o c (by decide +kernel) (by decide) (by decide)]
    refine .ite (.guard _ fun set => .some ⟨rfl, skipped⟩) ?_
    exact (agree_bracketItem? closing (follows.skip closing o)).andThen fun second _ _ grown =>
      .guard _ fun lo => .guard _ fun hi => .ite (.some ⟨rfl, grown⟩) (.none _)

theorem length_dropComments_le (inside : Bool) (text : List Char) :
    (dropComments inside text).length ≤ text.length := by
  induction text generalizing inside with
  | nil => exact Nat.le_refl _
  | cons c text ih =>
    rw [dropComments]
    split
    · exact Nat.le_succ_of_le (ih _)
    · split
      · exact Nat.le_succ_of_le (ih _)
      · split
        · exact Nat.le_succ_of_le (ih _)
        · exact Nat.le_refl _

theorem length_skip_le (o : Options) (text : List Char) : (o.skip text).length ≤ text.length := by
  unfold Options.skip
  split
  · exact length_dropComments_le false text
  · exact Nat.le_refl _

theorem agree_leadingHyphens (closing : Closing tail) (grown : Grown tail text more) (m : Members)
    {n k : Nat} (all : text.length ≤ n) (enough : n ≤ k) :
    Agree tail (leadingHyphens o m n text) (leadingHyphens o m k more) := by
  induction n generalizing text more m k with
  | zero =>
    obtain rfl := List.length_eq_zero_iff.1 (Nat.le_zero.1 all)
    exact .none _
  | succ n ih =>
    obtain ⟨k, rfl⟩ := Nat.exists_eq_add_one_of_ne_zero (by omega : k ≠ 0)
    cases text with
    | nil => exact .none _
    | cons c rest =>
      obtain ⟨later, rfl, follows⟩ := grown.cons
      by_cases hyphen : c = '-'
      · subst hyphen
        refine ih (follows.skip closing o) _ ?_ (Nat.le_of_succ_le_succ enough)
        have shorter := length_skip_le o rest
        rw [List.length_cons] at all
        omega
      · have stops (rest : List Char) (k : Nat) : leadingHyphens o m k (c :: rest) = some (m, c :: rest) := by
          rw [leadingHyphens]
          · exact nofun
          · rintro _ _ _ ⟨⟩
            exact hyphen rfl
        rw [stops, stops]
        exact .some ⟨rfl, grown⟩

/-- What may stand after the negation of a bracket. -/
def afterNegation (o : Options) (negated : Bool) (text : List Char) : Option (Bool × Members × List Char) :=
  (leadingHyphens o Members.none text.length text).bind fun p => match p.2 with
    | ']' :: rest =>
      if p.1.count = 0 then
        match o.skip rest with
        | [] => none
        | more => some (negated, p.1.add (CharSet.single ']') 0, more)
      else some (negated, p.1, p.2)
    | _ => some (negated, p.1, p.2)

theorem openBracket?_negated (opens : o.skip text = '^' :: rest) :
    openBracket? o text = afterNegation o true (o.skip rest) := by
  rw [openBracket?, opens]
  rfl

theorem openBracket?_plain (opens : (o.skip text).head? ≠ some '^') :
    openBracket? o text = afterNegation o false (o.skip text) := by
  rw [openBracket?]
  generalize o.skip text = here at opens
  dsimp only
  split
  next => exact absurd rfl opens
  next => rfl

/-- The result has a part of its own before the value and the rest. -/
abbrev AgreeAfter {α β : Type} (tail : List Char) :
    Option (α × β × List Char) → Option (α × β × List Char) → Prop :=
  Follows fun p q => p.1 = q.1 ∧ Same tail p.2 q.2

theorem agree_afterNegation (closing : Closing tail) (grown : Grown tail text more) (negated : Bool) :
    AgreeAfter tail (afterNegation o negated text) (afterNegation o negated more) := by
  refine (agree_leadingHyphens closing grown _ (Nat.le_refl _) grown.length_le).andThen
    fun m rest later follows => ?_
  dsimp only
  split
  next rest =>
    obtain ⟨later, rfl, follows'⟩ := follows.cons
    refine .ite ?_ (.some ⟨rfl, rfl, follows⟩)
    have skipped := follows'.skip closing o
    generalize o.skip rest = here, o.skip later = there at skipped
    cases here with
    | nil => exact .none _
    | cons c rest =>
      obtain ⟨later, rfl, _⟩ := skipped.cons
      exact .some ⟨rfl, rfl, skipped⟩
  next bracketless =>
    split
    next =>
      obtain ⟨rest, rfl, _⟩ := follows.uncons closing (by decide)
      exact (bracketless _ rfl).elim
    next => exact .some ⟨rfl, rfl, follows⟩

theorem agree_openBracket? (closing : Closing tail) (grown : Grown tail text more) :
    AgreeAfter tail (openBracket? o text) (openBracket? o more) := by
  have skipped := grown.skip closing o
  by_cases caret : (o.skip text).head? = some '^'
  · obtain ⟨rest, opens⟩ := List.head?_eq_some_iff.1 caret
    rw [opens] at skipped
    obtain ⟨later, opens', follows⟩ := skipped.cons
    rw [openBracket?_negated opens, openBracket?_negated opens']
    exact agree_afterNegation closing (follows.skip closing o) true
  · have plain : (o.skip more).head? ≠ some '^' := fun head =>
      caret ((skipped.head?_iff closing (d := '^') (by decide)).1 head)
    rw [openBracket?_plain caret, openBracket?_plain plain]
    exact agree_afterNegation closing skipped false

def className? (negated : Bool) (text : List Char) : Option (CharSet × Bool × List Char) :=
  match text.dropWhile (· != ':') with
  | ':' :: ']' :: after =>
    (asciiClass? (String.ofList (text.takeWhile (· != ':')))).map fun s => (s, negated, after)
  | _ => none

theorem namedClass?_negated (rest : List Char) : namedClass? (':' :: '^' :: rest) = className? true rest := rfl

theorem namedClass?_plain (plain : rest.head? ≠ some '^') :
    namedClass? (':' :: rest) = className? false rest := by
  cases rest with
  | nil => rfl
  | cons c rest =>
    have other : c ≠ '^' := fun same => plain (congrArg some same)
    simp only [namedClass?, List.cons.injEq, other, false_and, imp_self, implies_true]
    rfl

theorem namedClass?_of_head? (other : text.head? ≠ some ':') : namedClass? text = none := by
  unfold namedClass?
  split
  next => exact absurd rfl other
  next => rfl

/-- The two results are related, or there is neither. -/
abbrev Alike (tail : List Char) :
    Option (CharSet × Bool × List Char) → Option (CharSet × Bool × List Char) → Prop :=
  Option.Rel fun p q => p.1 = q.1 ∧ Same tail p.2 q.2

theorem alike_className? (closing : Closing tail) (grown : Grown tail text more) (negated : Bool) :
    Alike tail (className? negated text) (className? negated more) := by
  have missing : ':' ∉ tail := fun member => absurd (closing.marks _ member) (by decide)
  obtain ⟨dropped, taken⟩ := grown.upTo missing
  unfold className?
  split
  next after here =>
    rw [here] at dropped
    obtain ⟨_, there, dropped⟩ := dropped.cons
    obtain ⟨later, rfl, follows⟩ := dropped.cons
    rw [there, taken (by rw [here]; exact nofun)]
    simp only
    cases asciiClass? (String.ofList (text.takeWhile (· != ':'))) with
    | none => exact .none
    | some s => exact .some ⟨rfl, rfl, follows⟩
  next unended =>
    split
    next after there =>
      rw [there] at dropped
      obtain ⟨_, here, dropped⟩ := dropped.uncons closing (by decide)
      obtain ⟨_, rfl, _⟩ := dropped.uncons closing (by decide)
      exact (unended _ here).elim
    next => exact .none

theorem alike_namedClass? (closing : Closing tail) (grown : Grown tail text more) :
    Alike tail (namedClass? text) (namedClass? more) := by
  by_cases colon : text.head? = some ':'
  · obtain ⟨rest, rfl⟩ := List.head?_eq_some_iff.1 colon
    obtain ⟨later, rfl, follows⟩ := grown.cons
    by_cases caret : rest.head? = some '^'
    · obtain ⟨rest, rfl⟩ := List.head?_eq_some_iff.1 caret
      obtain ⟨later, rfl, inner⟩ := follows.cons
      rw [namedClass?_negated, namedClass?_negated]
      exact alike_className? closing inner true
    · have plain : later.head? ≠ some '^' := fun head =>
        caret ((follows.head?_iff closing (d := '^') (by decide)).1 head)
      rw [namedClass?_plain caret, namedClass?_plain plain]
      exact alike_className? closing follows false
  · have other : more.head? ≠ some ':' := fun head =>
      colon ((grown.head?_iff closing (d := ':') (by decide)).1 head)
    rw [namedClass?_of_head? colon, namedClass?_of_head? other]
    exact .none

theorem agree_bracket?_operands? (closing : Closing tail) (n : Nat) :
    (∀ {text more : List Char} {k : Nat}, Grown tail text more → n ≤ k →
      Agree tail (bracket? o n text) (bracket? o k more)) ∧
    ∀ (pending : Option (SetOperator × WrittenSet)) (m : Members) {text more : List Char} {k : Nat},
      Grown tail text more → n ≤ k →
      Agree tail (operands? o pending m n text) (operands? o pending m k more) := by
  induction n with
  | zero => exact ⟨fun _ _ => .none _, fun _ _ _ _ _ _ _ => .none _⟩
  | succ n ih =>
    obtain ⟨bracket, operands⟩ := ih
    constructor
    · intro text more k grown enough
      obtain ⟨k, rfl⟩ := Nat.exists_eq_add_one_of_ne_zero (by omega : k ≠ 0)
      have enough := Nat.le_of_succ_le_succ enough
      rw [bracket?, bracket?]
      refine (agree_openBracket? closing grown).bind fun p q same => ?_
      obtain ⟨negated, m, rest⟩ := p
      obtain ⟨_, _, later⟩ := q
      obtain ⟨rfl, rfl, grown⟩ := same
      exact (operands none m grown enough).andThen fun inner _ _ grown =>
        .guard _ fun set => .some ⟨rfl, grown⟩
    · intro pending m text more k grown enough
      obtain ⟨k, rfl⟩ := Nat.exists_eq_add_one_of_ne_zero (by omega : k ≠ 0)
      have enough := Nat.le_of_succ_le_succ enough
      have skipped := grown.skip closing o
      rw [operands?, operands?]
      generalize o.skip text = here, o.skip more = there at skipped
      split
      next => exact .none _
      next rest =>
        obtain ⟨later, rfl, follows⟩ := skipped.cons
        exact .some ⟨rfl, follows⟩
      next rest =>
        obtain ⟨later, rfl, follows⟩ := skipped.cons
        have named := alike_namedClass? closing follows
        simp only
        generalize namedClass? rest = here, namedClass? later = there at named
        cases named with
        | none =>
          refine (bracket follows enough).andThen fun inner _ _ grown => ?_
          exact operands pending (m.add inner.set inner.depth) grown enough
        | @some p q same =>
          obtain ⟨s, negated, rest⟩ := p
          obtain ⟨_, _, later⟩ := q
          obtain ⟨rfl, rfl, grown⟩ := same
          exact .guard _ fun s => operands pending (m.add s 0) grown enough
      next rest =>
        obtain ⟨_, rfl, first⟩ := skipped.cons
        obtain ⟨later, rfl, follows⟩ := first.cons
        exact operands _ _ follows enough
      next rest =>
        obtain ⟨_, rfl, first⟩ := skipped.cons
        obtain ⟨later, rfl, follows⟩ := first.cons
        exact operands _ _ follows enough
      next rest =>
        obtain ⟨_, rfl, first⟩ := skipped.cons
        obtain ⟨later, rfl, follows⟩ := first.cons
        exact operands _ _ follows enough
      next present unclosed unopened conjoined hyphened tilded =>
        split
        next => exact (present (List.length_eq_zero_iff.1 (Nat.le_zero.1 skipped.length_le))).elim
        next =>
          obtain ⟨_, rfl, _⟩ := skipped.uncons closing (by decide)
          exact (unclosed _ rfl).elim
        next =>
          obtain ⟨_, rfl, _⟩ := skipped.uncons closing (by decide)
          exact (unopened _ rfl).elim
        next =>
          obtain ⟨_, rfl, first⟩ := skipped.uncons closing (by decide)
          obtain ⟨_, rfl, _⟩ := first.uncons closing (by decide)
          exact (conjoined _ rfl).elim
        next =>
          obtain ⟨_, rfl, first⟩ := skipped.uncons closing (by decide)
          obtain ⟨_, rfl, _⟩ := first.uncons closing (by decide)
          exact (hyphened _ rfl).elim
        next =>
          obtain ⟨_, rfl, first⟩ := skipped.uncons closing (by decide)
          obtain ⟨_, rfl, _⟩ := first.uncons closing (by decide)
          exact (tilded _ rfl).elim
        next =>
          exact (agree_member? closing skipped).andThen fun s _ _ grown =>
            operands pending (m.add s 0) grown enough

end Brackets

end UrlRouting.Regex
