import UrlRouting.Proofs.Regex.GrownSet
import UrlRouting.Proofs.Regex.Written

/-! Reading an expression within another. A text that is an expression by itself is that expression,
too, at the head of a group that is open around it, unless a comment at its end takes in what closes
the group. -/

namespace UrlRouting.Regex

section Counts

variable {tail text rest later more : List Char} {o : Options}

/-- Where the text has ended, what goes on begins with a closing parenthesis if with anything. -/
theorem Grown.stops (closing : Closing tail) (grown : Grown tail [] more) {p : Char → Bool}
    (other : p ')' = false) {c : Char} (head : more.head? = some c) : p c = false := by
  by_cases last : c = ')'
  · rw [last, other]
  · exact nomatch (grown.head?_iff closing last).1 head

theorem digits_of_head? (acc : Nat) (any : Bool) (k : Nat)
    (stops : ∀ {c}, text.head? = some c → Unicode.isAsciiDigit c = false) :
    decimal?.digits o acc any k text = (if any then some acc else none, text) := by
  cases k with
  | zero => rw [decimal?.digits]; exact nofun
  | succ k =>
    cases text with
    | nil => rw [decimal?.digits]; exact nofun
    | cons c rest => rw [decimal?.digits, if_neg (Bool.eq_false_iff.1 (stops rfl))]

theorem same_digits (closing : Closing tail) (grown : Grown tail text more) (acc : Nat) (any : Bool)
    {n k : Nat} (all : text.length ≤ n) (enough : n ≤ k) :
    Same tail (decimal?.digits o acc any n text) (decimal?.digits o acc any k more) := by
  -- there is fuel for all of the text, so both stop at the same character
  induction n generalizing acc any text more k with
  | zero =>
    obtain rfl := List.length_eq_zero_iff.1 (Nat.le_zero.1 all)
    rw [digits_of_head? _ _ _ (by simp), digits_of_head? _ _ _ (grown.stops closing rfl)]
    exact ⟨rfl, grown⟩
  | succ n ih =>
    cases text with
    | nil =>
      rw [digits_of_head? _ _ _ (by simp), digits_of_head? _ _ _ (grown.stops closing rfl)]
      exact ⟨rfl, grown⟩
    | cons c rest =>
      obtain ⟨k, rfl⟩ := Nat.exists_eq_add_one_of_ne_zero (by omega : k ≠ 0)
      obtain ⟨later, rfl, follows⟩ := grown.cons
      rw [decimal?.digits, decimal?.digits]
      split
      · have shorter := length_skip_le o rest
        rw [List.length_cons] at all
        exact ih (follows.skip closing o) _ _ (by omega) (Nat.le_of_succ_le_succ enough)
      · exact ⟨rfl, grown⟩

theorem blanks_of_head? (k : Nat) (stops : ∀ {c}, text.head? = some c → Unicode.isBlank c = false) :
    decimal?.blanks o k text = text := by
  cases k with
  | zero => rw [decimal?.blanks]; exact nofun
  | succ k =>
    cases text with
    | nil => rw [decimal?.blanks]; exact nofun
    | cons c rest => rw [decimal?.blanks, if_neg (Bool.eq_false_iff.1 (stops rfl))]

theorem Grown.blanks (closing : Closing tail) (grown : Grown tail text more) {n k : Nat}
    (all : text.length ≤ n) (enough : n ≤ k) :
    Grown tail (decimal?.blanks o n text) (decimal?.blanks o k more) := by
  have solid : Unicode.isBlank ')' = false := by decide +kernel
  induction n generalizing text more k with
  | zero =>
    obtain rfl := List.length_eq_zero_iff.1 (Nat.le_zero.1 all)
    rwa [blanks_of_head? _ (by simp), blanks_of_head? _ (grown.stops closing solid)]
  | succ n ih =>
    cases text with
    | nil =>
      rwa [blanks_of_head? _ (by simp), blanks_of_head? _ (grown.stops closing solid)]
    | cons c rest =>
      obtain ⟨k, rfl⟩ := Nat.exists_eq_add_one_of_ne_zero (by omega : k ≠ 0)
      obtain ⟨later, rfl, follows⟩ := grown.cons
      rw [decimal?.blanks, decimal?.blanks]
      split
      · have shorter := length_skip_le o rest
        rw [List.length_cons] at all
        exact ih (follows.skip closing o) (by omega) (Nat.le_of_succ_le_succ enough)
      · exact grown

theorem length_digits_le (acc : Nat) (any : Bool) (n : Nat) (text : List Char) :
    (decimal?.digits o acc any n text).2.length ≤ text.length := by
  fun_induction decimal?.digits o acc any n text with
  | case1 acc any n c rest digit ih =>
    have shorter := length_skip_le o rest
    rw [List.length_cons]
    omega
  | case2 => exact Nat.le_refl _
  | case3 => exact Nat.le_refl _

theorem agree_decimal? (closing : Closing tail) (grown : Grown tail text more) :
    Agree tail (decimal? o text) (decimal? o more) := by
  have dropped := grown.dropWhile closing (p := Unicode.isBlank) (by decide +kernel)
  have shorter : (text.dropWhile Unicode.isBlank).length ≤ text.length :=
    (List.dropWhile_sublist _).length_le
  have digits := same_digits (o := o) closing dropped 0 false shorter grown.length_le
  have left := Nat.le_trans (length_digits_le (o := o) 0 false text.length _) shorter
  unfold decimal?
  generalize decimal?.digits o 0 false text.length _ = here,
    decimal?.digits o 0 false more.length _ = there at digits left
  obtain ⟨value, rest⟩ := here
  obtain ⟨_, later⟩ := there
  obtain ⟨rfl, follows⟩ := digits
  have blanks := follows.blanks (o := o) closing left grown.length_le
  cases value with
  | none => exact .some ⟨rfl, blanks⟩
  | some n => exact .ite (.some ⟨rfl, blanks⟩) (.none _)

theorem agree_bounds? (closing : Closing tail) (grown : Grown tail text more) :
    Agree tail (bounds? o text) (bounds? o more) := by
  have skipped := grown.skip closing o
  unfold bounds?
  dsimp only
  generalize o.skip text = here, o.skip more = there at skipped
  cases here with
  | nil => exact .none _
  | cons c rest =>
    obtain ⟨later, rfl, _⟩ := skipped.cons
    refine (agree_decimal? closing skipped).andThen fun low rest later follows => ?_
    dsimp only
    split
    next rest =>
      obtain ⟨later, rfl, listed⟩ := follows.cons
      have skipped := listed.skip closing o
      simp only
      generalize o.skip rest = here, o.skip later = there at skipped
      split
      next => exact .none _
      next =>
        obtain ⟨_, rfl, ended⟩ := skipped.cons
        exact .guard _ fun low => .some ⟨rfl, ended⟩
      next present unended =>
        split
        next => exact (present (List.length_eq_zero_iff.1 (Nat.le_zero.1 skipped.length_le))).elim
        next =>
          obtain ⟨_, rfl, _⟩ := skipped.uncons closing (by decide)
          exact (unended _ rfl).elim
        next =>
          refine .guard _ fun low => (agree_decimal? closing skipped).andThen fun high rest later follows => ?_
          refine .guard _ fun high => ?_
          dsimp only
          split
          next =>
            obtain ⟨_, rfl, ended⟩ := follows.cons
            exact .ite (.some ⟨rfl, ended⟩) (.none _)
          next => exact .none _
    next =>
      obtain ⟨_, rfl, ended⟩ := follows.cons
      exact .guard _ fun low => .some ⟨rfl, ended⟩
    next => exact .none _

end Counts

section Openings

variable {tail text rest later more : List Char} {o : Options}

theorem agree_groupName? (closing : Closing tail) (grown : Grown tail text more) :
    Agree tail (groupName? text) (groupName? more) := by
  have missing : '>' ∉ tail := fun member => absurd (closing.marks _ member) (by decide)
  obtain ⟨dropped, taken⟩ := grown.upTo missing
  unfold groupName?
  generalize text.dropWhile (· != '>') = here, more.dropWhile (· != '>') = there at dropped taken
  cases here with
  | nil =>
    dsimp only
    cases text.takeWhile (· != '>') <;> exact .none _
  | cons c rest =>
    obtain ⟨later, rfl, follows⟩ := dropped.cons
    rw [taken nofun]
    dsimp only
    split
    next d inner _ named ended =>
      cases ended
      rw [named]
      exact Follows.ite (.some ⟨rfl, follows⟩) (.none _)
    next => exact .none _

theorem follows_optionLetters? (grown : Grown tail text more) (o : Options)
    (seen : List Char) (negated dangling : Bool) :
    Follows (fun p q => p.1 = q.1 ∧ p.2.1 = q.2.1 ∧ Same tail p.2.2 q.2.2)
      (optionLetters? o seen negated dangling text) (optionLetters? o seen negated dangling more) := by
  induction text generalizing more o seen negated dangling with
  | nil => exact .none _
  | cons c rest ih =>
    obtain ⟨later, rfl, follows⟩ := grown.cons
    rw [optionLetters?, optionLetters?]
    refine .ite (.ite (.none _) (.some ⟨rfl, rfl, rfl, follows⟩)) (.ite (.none _) (.ite ?_ ?_))
    · exact ih follows _ _ _ _
    · exact .guard _ fun o => ih follows _ _ _ _

theorem agree_named (closing : Closing tail) (grown : Grown tail text more) :
    Agree tail (opening?.named o text) (opening?.named o more) :=
  (agree_groupName? closing grown).andThen fun _ _ _ grown => .some ⟨rfl, grown⟩

/-- What begins with a question mark that no name follows. -/
def unnamed? (o : Options) (rest : List Char) : Option (Opening × List Char) :=
  (optionLetters? o [] false false rest).bind fun p =>
    if p.2.2.1 = ':' then some (.group .plain p.1, p.2.2.2)
    else if p.2.1 then some (.setting p.1, p.2.2.2)
    else none

theorem agree_unnamed? (grown : Grown tail text more) :
    Agree tail (unnamed? o text) (unnamed? o more) := by
  refine (follows_optionLetters? grown o [] false false).bind fun p q same => ?_
  obtain ⟨inner, any, stop, rest⟩ := p
  obtain ⟨_, _, _, later⟩ := q
  obtain ⟨rfl, rfl, rfl, follows⟩ := same
  exact .ite (.some ⟨rfl, follows⟩) (.ite (.some ⟨rfl, follows⟩) (.none _))

/-- What begins with a question mark and an angle bracket: a name, but no look-around. -/
def bracketed? (o : Options) : List Char → Option (Opening × List Char)
  | '=' :: _ => none
  | '!' :: _ => none
  | rest => opening?.named o rest

theorem agree_bracketed? (closing : Closing tail) (grown : Grown tail text more) :
    Agree tail (bracketed? o text) (bracketed? o more) := by
  unfold bracketed?
  split
  next => exact .none _
  next => exact .none _
  next unequal unlike =>
    split
    next =>
      obtain ⟨_, rfl, _⟩ := grown.uncons closing (by decide)
      exact (unequal _ rfl).elim
    next =>
      obtain ⟨_, rfl, _⟩ := grown.uncons closing (by decide)
      exact (unlike _ rfl).elim
    next => exact agree_named closing grown

theorem opening?_bracketed (opens : o.skip text = '?' :: '<' :: rest) :
    opening? o text = bracketed? o rest := by
  rw [opening?, opens]
  fun_cases bracketed? o rest with
  | case1 => rfl
  | case2 => rfl
  | case3 => simp_all

theorem opening?_unnamed (opens : o.skip text = '?' :: rest) (unnamed : ∀ name, rest ≠ 'P' :: '<' :: name)
    (unbracketed : rest.head? ≠ some '<') : opening? o text = unnamed? o rest := by
  rw [opening?, opens]
  simp only
  split
  next same => exact (unnamed _ (List.cons.inj same).2).elim
  next same => exact absurd (congrArg List.head? (List.cons.inj same).2) unbracketed
  next same => exact absurd (congrArg List.head? (List.cons.inj same).2) unbracketed
  next same => exact absurd (congrArg List.head? (List.cons.inj same).2) unbracketed
  next same =>
    cases same
    rfl
  next other => exact (other _ rfl).elim

theorem opening?_unmarked (unmarked : (o.skip text).head? ≠ some '?') :
    opening? o text = some (.group (.capture none) o, o.skip text) := by
  unfold opening?
  generalize o.skip text = here at unmarked
  split
  case h_6 => rfl
  all_goals exact absurd rfl unmarked

theorem agree_opening? (closing : Closing tail) (grown : Grown tail text more) :
    Agree tail (opening? o text) (opening? o more) := by
  have skipped := grown.skip closing o
  by_cases marked : (o.skip text).head? = some '?'
  · obtain ⟨rest, opens⟩ := List.head?_eq_some_iff.1 marked
    rw [opens] at skipped
    obtain ⟨later, opens', follows⟩ := skipped.cons
    by_cases bracketed : rest.head? = some '<'
    · obtain ⟨rest, rfl⟩ := List.head?_eq_some_iff.1 bracketed
      obtain ⟨later, rfl, inner⟩ := follows.cons
      rw [opening?_bracketed opens, opening?_bracketed opens']
      exact agree_bracketed? closing inner
    · by_cases named : ∃ name, rest = 'P' :: '<' :: name
      · obtain ⟨name, rfl⟩ := named
        obtain ⟨_, rfl, first⟩ := follows.cons
        obtain ⟨_, rfl, second⟩ := first.cons
        rw [opening?, opening?, opens, opens']
        exact agree_named closing second
      · rw [opening?_unnamed opens (fun name same => named ⟨name, same⟩) bracketed, opening?_unnamed opens']
        · exact agree_unnamed? follows
        · rintro name rfl
          obtain ⟨_, rfl, first⟩ := follows.uncons closing (by decide)
          obtain ⟨_, rfl, _⟩ := first.uncons closing (by decide)
          exact named ⟨_, rfl⟩
        · exact fun head => bracketed ((follows.head?_iff closing (d := '<') (by decide)).1 head)
  · have unmarked : (o.skip more).head? ≠ some '?' := fun head =>
      marked ((skipped.head?_iff closing (d := '?') (by decide)).1 head)
    rw [opening?_unmarked marked, opening?_unmarked unmarked]
    exact .some ⟨rfl, skipped⟩

end Openings

/-- The same state with more groups open around it. -/
def ParseState.under (st : ParseState) (outer : List OpenGroup) : ParseState :=
  { st with groups := st.groups ++ outer }

section Steps

variable {tail text rest later more : List Char} {o : Options} {st last : ParseState}
  {outer : List OpenGroup}

theorem same_lazyMark (closing : Closing tail) (grown : Grown tail text more) :
    Same tail (lazyMark text) (lazyMark more) := by
  unfold lazyMark
  split
  next rest =>
    obtain ⟨later, rfl, follows⟩ := grown.cons
    exact ⟨rfl, follows⟩
  next unmarked =>
    split
    next =>
      obtain ⟨_, rfl, _⟩ := grown.uncons closing (by decide)
      exact (unmarked _ rfl).elim
    next => exact ⟨rfl, grown⟩

theorem agree_pair {α : Type} (value : Option α) (grown : Grown tail text more) :
    Agree tail (value.map (·, text)) (value.map (·, more)) := by
  cases value with
  | none => exact .none _
  | some a => exact .some ⟨rfl, grown⟩

theorem agree_part? (closing : Closing tail) (grown : Grown tail text more) :
    Agree tail (part? o text) (part? o more) := by
  fun_cases part? o text with
  | case1 => exact .none _
  | case2 rest =>
    obtain ⟨later, rfl, follows⟩ := grown.cons
    exact (agree_escape? closing follows).andThen fun e _ _ grown => .guard _ fun n => .some ⟨rfl, grown⟩
  | case3 rest =>
    obtain ⟨later, rfl, follows⟩ := grown.cons
    exact agree_pair _ follows
  | case4 rest =>
    obtain ⟨later, rfl, follows⟩ := grown.cons
    exact .some ⟨rfl, follows⟩
  | case5 rest =>
    obtain ⟨later, rfl, follows⟩ := grown.cons
    exact .some ⟨rfl, follows⟩
  | case6 rest =>
    obtain ⟨later, rfl, follows⟩ := grown.cons
    have lengths := follows.length_le
    refine ((agree_bracket?_operands? closing _).1 follows ?_).andThen fun s _ _ grown => .some ⟨rfl, grown⟩
    omega
  | case7 c rest =>
    obtain ⟨later, rfl, follows⟩ := grown.cons
    rw [part?]
    · exact agree_pair _ follows
    all_goals assumption

/-- What a step does to a state it does to the state with more groups around it. -/
abbrev Steps (tail : List Char) (outer : List OpenGroup) :
    Option (ParseState × List Char) → Option (ParseState × List Char) → Prop :=
  Follows fun p q => q.1 = p.1.under outer ∧ Grown tail p.2 q.2

theorem repeatLast?_under (least : Nat) (most : Option Nat) (lazy : Bool) :
    repeatLast? (st.under outer) least most lazy =
      (repeatLast? st least most lazy).map (·.under outer) := by
  obtain ⟨o, ⟨parts, earlier⟩, groups⟩ := st
  cases parts with
  | nil => rfl
  | cons n parts =>
    unfold repeatLast?
    simp only [ParseState.under]
    split <;> rfl

theorem closeGroup?_under (closes : closeGroup? st = some last) :
    closeGroup? (st.under outer) = some (last.under outer) := by
  obtain ⟨o, branch, groups⟩ := st
  cases groups with
  | nil => cases closes
  | cons g groups =>
    cases Option.some.inj closes
    rfl

theorem steps_repeat (st : ParseState) (outer : List OpenGroup) (closing : Closing tail)
    (grown : Grown tail text more) (least : Nat) (most : Option Nat) :
    Steps tail outer ((repeatLast? st least most (lazyMark text).1).map (·, (lazyMark text).2))
      ((repeatLast? (st.under outer) least most (lazyMark more).1).map (·, (lazyMark more).2)) := by
  obtain ⟨lazy, follows⟩ := same_lazyMark closing grown
  rw [repeatLast?_under, ← lazy]
  cases repeatLast? st least most (lazyMark text).1 with
  | none => exact .none _
  | some last => exact .some ⟨rfl, follows⟩

theorem steps_step? (st : ParseState) (outer : List OpenGroup) (closing : Closing tail)
    (grown : Grown tail text more) :
    Steps tail outer (step? st text) (step? (st.under outer) more) := by
  fun_cases step? st text with
  | case1 rest =>
    obtain ⟨later, rfl, follows⟩ := grown.cons
    refine (agree_opening? closing follows).andThen fun opening _ _ grown => ?_
    cases opening with
    | setting o => exact .some ⟨rfl, grown⟩
    | group wrap inner => exact .some ⟨rfl, grown⟩
  | case2 rest =>
    obtain ⟨later, rfl, follows⟩ := grown.cons
    have closed : Follows (fun last whole => whole = last.under outer) (closeGroup? st)
        (closeGroup? (st.under outer)) := fun last closes => ⟨_, closeGroup?_under closes, rfl⟩
    exact closed.map fun _ _ same => ⟨same, follows⟩
  | case3 rest =>
    obtain ⟨later, rfl, follows⟩ := grown.cons
    exact .some ⟨rfl, follows⟩
  | case4 rest lazy rest' marked =>
    obtain ⟨later, rfl, follows⟩ := grown.cons
    have repeats := steps_repeat st outer closing follows 0 (some 1)
    rwa [marked] at repeats
  | case5 rest lazy rest' marked =>
    obtain ⟨later, rfl, follows⟩ := grown.cons
    have repeats := steps_repeat st outer closing follows 0 none
    rwa [marked] at repeats
  | case6 rest lazy rest' marked =>
    obtain ⟨later, rfl, follows⟩ := grown.cons
    have repeats := steps_repeat st outer closing follows 1 none
    rwa [marked] at repeats
  | case7 rest =>
    obtain ⟨later, rfl, follows⟩ := grown.cons
    refine (agree_bounds? closing follows).andThen fun bounds _ _ grown => ?_
    have repeats := steps_repeat st outer closing (grown.skip closing st.options)
      bounds.1 bounds.2
    simp only [Option.map_eq_bind] at repeats
    exact repeats
  | case8 =>
    cases text with
    | nil => exact .none _
    | cons c rest =>
      obtain ⟨later, rfl, _⟩ := grown.cons
      have other {d : Char} (never : ∀ rest', c :: rest = d :: rest' → False) (rest' : List Char) :
          ¬c :: later = d :: rest' :=
        fun same => never rest ((List.cons.inj same).1 ▸ rfl)
      rw [step?]
      · exact (agree_part? closing grown).andThen fun n _ _ grown => .some ⟨rfl, grown⟩
      all_goals exact other ‹_›

theorem skip_closing (closing : Closing tail) (o : Options) : o.skip tail = tail := by
  obtain ⟨later, rfl⟩ := closing.head
  unfold Options.skip
  split
  · rfl
  · rfl

theorem parts?_of_step {next : ParseState} (step : step? st (st.options.skip text) = some (next, rest))
    (fuel : Nat) : parts? (fuel + 1) st text = parts? fuel next rest := by
  rw [parts?]
  split
  next ended =>
    rw [ended] at step
    cases step
  next => simp only [step, Option.bind_eq_bind, Option.bind_some]

theorem parts?_of_skip_nil (st : ParseState) (ended : st.options.skip text = []) (fuel : Nat) :
    parts? (fuel + 1) st text = some st := by
  rw [parts?, ended]

theorem parts?_of_skip_eq (st : ParseState) (same : st.options.skip text = st.options.skip rest)
    (fuel : Nat) :
    parts? (fuel + 1) st text = parts? (fuel + 1) st rest := by
  rw [parts?, parts?, same]

/-- A text that is read to its end is read, within more groups, up to what follows it. -/
theorem parts?_under (outer : List OpenGroup) (closing : Closing tail) (grown : Grown tail text more) {n : Nat}
    (read : parts? n st text = some last) :
    ∃ steps, (∀ fuel, parts? (steps + (fuel + 1)) (st.under outer) more =
        parts? (fuel + 1) (last.under outer) tail) ∨
      ∀ fuel, parts? (steps + (fuel + 1)) (st.under outer) more = some (last.under outer) := by
  -- induction on the fuel of the text alone: what goes on takes the same steps
  induction n generalizing st text more with
  | zero => cases read
  | succ n ih =>
    have skipped := grown.skip closing st.options
    rw [parts?] at read
    split at read
    next ended =>
      obtain rfl := Option.some.inj read
      rw [ended] at skipped
      refine ⟨0, ?_⟩
      generalize there : st.options.skip more = later at skipped
      cases skipped with
      | more =>
        refine .inl fun fuel => ?_
        rw [Nat.zero_add]
        exact parts?_of_skip_eq (st.under outer) (there.trans (skip_closing closing _).symm) fuel
      | swallowed =>
        refine .inr fun fuel => ?_
        rw [Nat.zero_add]
        exact parts?_of_skip_nil (st.under outer) there fuel
    next present =>
      obtain ⟨⟨st', rest⟩, step, read⟩ := Option.bind_eq_some_iff.1 read
      obtain ⟨⟨_, later⟩, step', rfl, follows⟩ := steps_step? st outer closing skipped _ step
      obtain ⟨steps, reads⟩ := ih follows read
      have next (fuel : Nat) : parts? (steps + 1 + fuel) (st.under outer) more =
          parts? (steps + fuel) (st'.under outer) later := by
        rw [Nat.add_right_comm]
        exact parts?_of_step step' _
      refine ⟨steps + 1, reads.imp (fun reads fuel => ?_) fun reads fuel => ?_⟩
      · rw [next, reads]
      · rw [next, reads]

theorem parts?_succ {n : Nat} (read : parts? n st text = some last) : parts? (n + 1) st text = some last := by
  induction n generalizing st text with
  | zero => cases read
  | succ n ih =>
    rw [parts?] at read ⊢
    split at read
    next => exact read
    next =>
      obtain ⟨⟨st', rest⟩, step, read⟩ := Option.bind_eq_some_iff.1 read
      simp only [step, Option.bind_eq_bind, Option.bind_some]
      exact ih read

theorem parts?_le {n k : Nat} (read : parts? n st text = some last) (enough : n ≤ k) :
    parts? k st text = some last := by
  induction enough with
  | refl => exact read
  | step _ ih => exact parts?_succ ih

/-- However much fuel a text is read with, it is read the same. -/
theorem parts?_unique {n k : Nat} {last' : ParseState} (read : parts? n st text = some last)
    (again : parts? k st text = some last') : last = last' := by
  have both := parts?_le again (Nat.le_max_right n k)
  rw [parts?_le read (Nat.le_max_left n k)] at both
  exact Option.some.inj both

theorem parse?_eq_some {n : Node} (parsed : Node.parse? text = some n) :
    ∃ fuel last, parts? fuel .initial text = some last ∧ last.groups = [] ∧
      last.branch.close = n := by
  obtain ⟨last, read, closed⟩ := Option.bind_eq_some_iff.1 parsed
  split at closed
  next ended => exact ⟨_, last, read, List.isEmpty_iff.1 ended, Option.some.inj closed⟩
  next => cases closed

theorem skip_nil (o : Options) : o.skip [] = [] := by
  unfold Options.skip
  split <;> rfl

/-- A text that is an expression by itself is that expression in a group, too, if the whole is an
expression at all. -/
theorem parse?_within {x before after : List Char} {n whole : Node} {wrap : Wrap}
    (alone : Node.parse? x = some n) (unmarked : x.head? ≠ some '?') (closing : Closing (')' :: after))
    (opens : Reading .initial before (st.opened wrap))
    (closes : Reading (st.pushed [wrap.whole n]) after last)
    (parsed : Node.parse? (before ++ (x ++ ')' :: after)) = some whole) :
    last.groups = [] ∧ last.branch.close = whole := by
  obtain ⟨_, ended, read, balanced, rfl⟩ := parse?_eq_some parsed
  obtain ⟨_, ⟨options, branch, groups⟩, readx, balancedx, rfl⟩ := parse?_eq_some alone
  obtain rfl : groups = [] := balancedx
  obtain ⟨steps, _, opening⟩ := opens
  obtain ⟨steps', _, ending⟩ := closes
  have head : (x ++ ')' :: after).head? ≠ some '?' := by
    cases x with
    | nil => exact fun same => absurd (Option.some.inj same) (by decide)
    | cons c x => exact unmarked
  obtain ⟨middle, reads | swallows⟩ :=
    parts?_under (⟨wrap, st.options, st.branch⟩ :: st.groups) closing (.more x) readx
  · have closed (fuel : Nat) : parts? (fuel + 1)
        (ParseState.under ⟨options, branch, []⟩ (⟨wrap, st.options, st.branch⟩ :: st.groups)) (')' :: after) =
        parts? fuel (st.pushed [wrap.whole branch.close]) after := by
      apply parts?_of_step
      rw [skip_closing closing]
      cases wrap <;> rfl
    have finished : parts? 1 last [] = some last := parts?_of_skip_nil last (skip_nil _) 0
    have again := calc
      _ = _ := opening (middle + (steps' + 1 + 1)) _ head
      _ = _ := reads (steps' + 1)
      _ = _ := closed (steps' + 1)
      _ = _ := congrArg _ (List.append_nil after).symm
      _ = _ := ending 1 [] (by simp)
      _ = _ := finished
    obtain rfl := parts?_unique read again
    exact ⟨balanced, rfl⟩
  · -- the comment has left the group open
    have again := (opening (middle + (0 + 1)) _ head).trans (swallows 0)
    obtain rfl := parts?_unique read again
    cases balanced

end Steps

end UrlRouting.Regex
