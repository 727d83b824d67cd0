import Mathlib.Data.List.Basic
import UrlRouting.Regex.Match

/-! What an expression takes from a text, as a relation. The matcher keeps one way to each place, so
it does not find every way there is; it finds only ways there are, and one to every place that any
of them leads to. Expressions with counted rounds are left out: the shapes of routes have none. -/

namespace UrlRouting

namespace Cursor

/-- The place after a stretch of the text ahead. -/
def past (c : Cursor) (x : List Char) : Cursor :=
  ⟨c.index + x.length, x.getLast?.or c.before, c.rest.drop x.length⟩

@[simp] theorem past_nil (c : Cursor) : c.past [] = c := rfl

theorem past_past (c : Cursor) (x y : List Char) : (c.past x).past y = c.past (x ++ y) := by
  simp only [past, List.length_append, List.getLast?_append, List.drop_drop, Nat.add_assoc,
    Option.or_assoc]

theorem past_singleton {c : Cursor} {a : Char} {rest : List Char} (ahead : c.rest = a :: rest) :
    c.past [a] = ⟨c.index + 1, some a, rest⟩ := by
  simp [past, ahead]

theorem eq_of_index_past {c : Cursor} {x y : List Char} (first : x <+: c.rest) (second : y <+: c.rest)
    (same : (c.past x).index = (c.past y).index) : x = y := by
  have lengths : x.length = y.length := by simpa [past] using same
  exact (List.prefix_of_prefix_length_le first second (Nat.le_of_eq lengths)).eq_of_length lengths

theorem upTo_past {c : Cursor} {x : List Char} (ahead : x <+: c.rest) : c.upTo (c.past x) = x := by
  obtain ⟨rest, same⟩ := ahead
  simp [upTo, past, ← same]

theorem prefix_append {c : Cursor} {x y : List Char} (first : x <+: c.rest)
    (second : y <+: (c.past x).rest) : x ++ y <+: c.rest := by
  obtain ⟨rest, same⟩ := first
  rw [← same]
  rw [past, ← same, List.drop_left] at second
  exact (List.prefix_append_right_inj x).2 second

theorem prefix_split {c : Cursor} {x y : List Char} (whole : x ++ y <+: c.rest) :
    x <+: c.rest ∧ y <+: (c.past x).rest := by
  obtain ⟨rest, same⟩ := whole
  rw [List.append_assoc] at same
  exact ⟨⟨y ++ rest, same⟩, ⟨rest, by rw [past, ← same, List.drop_left]⟩⟩

theorem rest_past_eq_nil {c : Cursor} {x : List Char} (ahead : x <+: c.rest) :
    (c.past x).rest = [] ↔ x = c.rest := by
  obtain ⟨rest, same⟩ := ahead
  simp [past, ← same]

theorem le_index_of_mem_onward {index : Nat} {before : Option Char} {text : List Char} {c : Cursor}
    (place : c ∈ onward index before text) : index ≤ c.index := by
  induction text generalizing index before with
  | nil =>
    obtain rfl := List.mem_singleton.1 place
    exact Nat.le_refl _
  | cons a text ih =>
    rcases List.mem_cons.1 place with rfl | later
    · exact Nat.le_refl _
    · exact Nat.le_of_succ_le (ih later)

theorem start_mem_places (text : List Char) : start text ∈ (start text).places := by
  cases text <;> exact List.mem_cons_self

theorem eq_start_of_index {text : List Char} {c : Cursor} (place : c ∈ (start text).places)
    (first : c.index = 0) : c = start text := by
  cases text with
  | nil => exact List.mem_singleton.1 place
  | cons a text =>
    rcases List.mem_cons.1 place with same | later
    · exact same
    · have further := le_index_of_mem_onward later
      omega

end Cursor

namespace Reach

theorem mem_of_mem_firsts {e : Reach} {es : List Reach} {seen : Nat} (member : e ∈ firsts seen es) :
    e ∈ es := by
  induction es generalizing seen with
  | nil => simp [firsts] at member
  | cons head rest ih =>
    unfold firsts at member
    split at member
    · exact List.mem_cons_of_mem _ (ih member)
    · rcases List.mem_cons.1 member with same | later
      · exact same ▸ List.mem_cons_self
      · exact List.mem_cons_of_mem _ (ih later)

theorem exists_mem_firsts {e : Reach} {es : List Reach} {seen : Nat} (member : e ∈ es)
    (unseen : seen.testBit e.cursor.index = false) :
    ∃ f ∈ firsts seen es, f.cursor.index = e.cursor.index := by
  induction es generalizing seen with
  | nil => simp at member
  | cons head rest ih =>
    by_cases known : seen.testBit head.cursor.index
    · rw [firsts, if_pos known]
      rcases List.mem_cons.1 member with same | later
      · rw [← same, unseen] at known
        cases known
      · exact ih later unseen
    · rw [firsts, if_neg known]
      by_cases here : head.cursor.index = e.cursor.index
      · exact ⟨head, List.mem_cons_self, here⟩
      · have later : e ∈ rest := (List.mem_cons.1 member).resolve_left fun same => here (same ▸ rfl)
        have open_ : (seen ||| 1 <<< head.cursor.index).testBit e.cursor.index = false := by
          rw [Nat.testBit_or, unseen, Bool.false_or, Nat.one_shiftLeft, Nat.testBit_two_pow]
          simpa using here
        obtain ⟨f, found, index⟩ := ih later open_
        exact ⟨f, List.mem_cons_of_mem _ found, index⟩

/-- Of several ways to one place, the list of first ways has one. -/
theorem exists_mem_firsts_past {c : Cursor} {es : List Reach}
    (ahead : ∀ e ∈ es, ∃ y, y <+: c.rest ∧ e.cursor = c.past y) {e : Reach} (member : e ∈ es)
    {x : List Char} (stretch : x <+: c.rest) (leads : e.cursor = c.past x) :
    ∃ f ∈ firsts 0 es, f.cursor = c.past x := by
  obtain ⟨f, found, index⟩ : ∃ f ∈ firsts 0 es, f.cursor.index = e.cursor.index :=
    exists_mem_firsts member (Nat.zero_testBit _)
  obtain ⟨y, prefix_y, leads_y⟩ := ahead f (mem_of_mem_firsts found)
  rw [leads, leads_y] at index
  exact ⟨f, found, Cursor.eq_of_index_past prefix_y stretch index ▸ leads_y⟩

end Reach

namespace Regex

/-- From a place an expression takes a stretch of text, with these captures, the latest first. -/
inductive Takes : Regex → Cursor → List Char → List (String × List Char) → Prop where
  | empty {c : Cursor} : Takes .empty c [] []
  | one {set : CharSet} {c : Cursor} {a : Char} (ahead : [a] <+: c.rest)
      (inside : set.contains a = true) : Takes (.one set) c [a] []
  | anchor {condition : Anchor} {c : Cursor} (holds : condition.holds c = true) :
      Takes (.anchor condition) c [] []
  | seq {r s : Regex} {c : Cursor} {x y : List Char} {k l : List (String × List Char)}
      (first : Takes r c x k) (second : Takes s (c.past x) y l) : Takes (.seq r s) c (x ++ y) (l ++ k)
  | left {r s : Regex} {c : Cursor} {x : List Char} {k : List (String × List Char)}
      (branch : Takes r c x k) : Takes (.alt r s) c x k
  | right {r s : Regex} {c : Cursor} {x : List Char} {k : List (String × List Char)}
      (branch : Takes s c x k) : Takes (.alt r s) c x k
  | run {set : CharSet} {least : Nat} {most : Option Nat} {greedy : Bool} {c : Cursor} {x : List Char}
      (ahead : x <+: c.rest) (inside : ∀ a ∈ x, set.contains a = true) (enough : least ≤ x.length)
      (bounded : ∀ n, most = some n → x.length ≤ n) : Takes (.run set least most greedy) c x []
  | skip {r : Regex} {greedy : Bool} {c : Cursor} : Takes (.optional r greedy) c [] []
  | enter {r : Regex} {greedy : Bool} {c : Cursor} {x : List Char} {k : List (String × List Char)}
      (body : Takes r c x k) : Takes (.optional r greedy) c x k
  | group {name : Option String} {r : Regex} {c : Cursor} {x : List Char}
      {k : List (String × List Char)} (body : Takes r c x k) :
      Takes (.group name r) c x (name.toList.map (·, x) ++ k)

/-- No counted rounds but those of single characters. -/
def Straight : Regex → Prop
  | seq r s => r.Straight ∧ s.Straight
  | alt r s => r.Straight ∧ s.Straight
  | optional r _ => r.Straight
  | group _ r => r.Straight
  | loop _ _ _ _ => False
  | _ => True

theorem Takes.ahead {r : Regex} {c : Cursor} {x : List Char} {k : List (String × List Char)}
    (takes : Takes r c x k) : x <+: c.rest := by
  induction takes with
  | empty | anchor | skip => exact List.nil_prefix
  | one ahead | run ahead => exact ahead
  | seq _ _ first second => exact Cursor.prefix_append first second
  | left _ ih | right _ ih | enter _ ih | group _ ih => exact ih

section Runs

variable {set : CharSet}

theorem getElem?_climb (c : Cursor) (i : Nat) (e : Cursor) :
    (c :: climb set c.index c.rest)[i]? = some e ↔
      ∃ x, x.length = i ∧ x <+: c.rest ∧ (∀ a ∈ x, set.contains a = true) ∧ e = c.past x := by
  obtain ⟨index, before, rest⟩ := c
  induction rest generalizing index before i with
  | nil =>
    constructor
    · intro found
      cases i with
      | zero => exact ⟨[], rfl, List.nil_prefix, by simp, (Option.some.inj found).symm⟩
      | succ i => simp [climb] at found
    · intro given
      obtain ⟨x, length, ahead, _, rfl⟩ := given
      obtain rfl := List.prefix_nil.1 ahead
      rw [← length]
      rfl
  | cons a rest ih =>
    cases i with
    | zero =>
      constructor
      · intro found
        exact ⟨[], rfl, List.nil_prefix, by simp, (Option.some.inj found).symm⟩
      · intro given
        obtain ⟨x, length, _, _, rfl⟩ := given
        obtain rfl := List.length_eq_zero_iff.1 length
        rfl
    | succ i =>
      by_cases inside : set.contains a = true
      · rw [climb, if_pos inside, List.getElem?_cons_succ, ih]
        have step : ∀ y, (⟨index + 1, some a, rest⟩ : Cursor).past y =
            (⟨index, before, a :: rest⟩ : Cursor).past (a :: y) := by
          intro y
          have joined := Cursor.past_past ⟨index, before, a :: rest⟩ [a] y
          rwa [Cursor.past_singleton rfl] at joined
        constructor
        · intro given
          obtain ⟨y, length, ahead, members, rfl⟩ := given
          exact ⟨a :: y, by rw [List.length_cons, length], List.cons_prefix_cons.2 ⟨rfl, ahead⟩,
            List.forall_mem_cons.2 ⟨inside, members⟩, step y⟩
        · intro given
          obtain ⟨x, length, ahead, members, rfl⟩ := given
          cases x with
          | nil => cases length
          | cons b y =>
            obtain ⟨rfl, later⟩ := List.cons_prefix_cons.1 ahead
            exact ⟨y, Nat.succ.inj length, later, (List.forall_mem_cons.1 members).2, (step y).symm⟩
      · rw [climb, if_neg inside]
        constructor
        · intro found
          simp at found
        · intro given
          obtain ⟨x, length, ahead, members, rfl⟩ := given
          cases x with
          | nil => cases length
          | cons b y =>
            obtain ⟨rfl, _⟩ := List.cons_prefix_cons.1 ahead
            exact absurd (List.forall_mem_cons.1 members).1 inside

theorem mem_runEnds {least : Nat} {most : Option Nat} {greedy : Bool} {c e : Cursor} :
    e ∈ runEnds set least most greedy c ↔
      ∃ x, x <+: c.rest ∧ (∀ a ∈ x, set.contains a = true) ∧ least ≤ x.length ∧
        (∀ n, most = some n → x.length ≤ n) ∧ e = c.past x := by
  cases most with
  | none =>
    have order : e ∈ runEnds set least none greedy c ↔
        e ∈ (c :: climb set c.index c.rest).drop least := by
      unfold runEnds
      cases greedy <;> simp
    rw [order, List.mem_iff_getElem?]
    simp only [List.getElem?_drop, getElem?_climb]
    constructor
    · intro given
      obtain ⟨i, x, length, ahead, members, rfl⟩ := given
      exact ⟨x, ahead, members, by omega, by simp, rfl⟩
    · intro given
      obtain ⟨x, ahead, members, enough, _, rfl⟩ := given
      exact ⟨x.length - least, x, by omega, ahead, members, rfl⟩
  | some n =>
    have order : e ∈ runEnds set least (some n) greedy c ↔
        e ∈ ((c :: climb set c.index c.rest).take (n + 1)).drop least := by
      unfold runEnds
      cases greedy <;> simp
    rw [order, List.mem_iff_getElem?]
    simp only [List.getElem?_drop, List.getElem?_take]
    constructor
    · intro given
      obtain ⟨i, found⟩ := given
      split at found
      next bound =>
        obtain ⟨x, length, ahead, members, rfl⟩ := (getElem?_climb c _ e).1 found
        exact ⟨x, ahead, members, by omega, fun m same => by cases same; omega, rfl⟩
      next => cases found
    · intro given
      obtain ⟨x, ahead, members, enough, bounded, rfl⟩ := given
      have bound := bounded n rfl
      refine ⟨x.length - least, ?_⟩
      rw [if_pos (by omega), getElem?_climb]
      exact ⟨x, by omega, ahead, members, rfl⟩

end Runs

section Inversion

variable {r s : Regex} {c : Cursor} {x : List Char} {k : List (String × List Char)}

theorem takes_empty : Takes .empty c x k ↔ x = [] ∧ k = [] :=
  ⟨fun | .empty => ⟨rfl, rfl⟩, fun ⟨nothing, caught⟩ => nothing ▸ caught ▸ .empty⟩

theorem takes_one {set : CharSet} :
    Takes (.one set) c x k ↔ ∃ a, x = [a] ∧ [a] <+: c.rest ∧ set.contains a = true ∧ k = [] :=
  ⟨fun | .one ahead inside => ⟨_, rfl, ahead, inside, rfl⟩,
    fun ⟨_, same, ahead, inside, caught⟩ => same ▸ caught ▸ .one ahead inside⟩

theorem takes_anchor {condition : Anchor} :
    Takes (.anchor condition) c x k ↔ condition.holds c = true ∧ x = [] ∧ k = [] :=
  ⟨fun | .anchor holds => ⟨holds, rfl, rfl⟩, fun ⟨holds, nothing, caught⟩ => nothing ▸ caught ▸ .anchor holds⟩

theorem takes_seq : Takes (.seq r s) c x k ↔
    ∃ y z l m, x = y ++ z ∧ k = m ++ l ∧ Takes r c y l ∧ Takes s (c.past y) z m :=
  ⟨fun | .seq first second => ⟨_, _, _, _, rfl, rfl, first, second⟩,
    fun ⟨_, _, _, _, text, caught, first, second⟩ => text ▸ caught ▸ .seq first second⟩

theorem takes_optional {greedy : Bool} :
    Takes (.optional r greedy) c x k ↔ x = [] ∧ k = [] ∨ Takes r c x k :=
  ⟨fun | .skip => .inl ⟨rfl, rfl⟩ | .enter body => .inr body,
    fun | .inl ⟨nothing, caught⟩ => nothing ▸ caught ▸ .skip | .inr body => .enter body⟩

theorem takes_run {set : CharSet} {least : Nat} {most : Option Nat} {greedy : Bool} :
    Takes (.run set least most greedy) c x k ↔ x <+: c.rest ∧ (∀ a ∈ x, set.contains a = true) ∧
      least ≤ x.length ∧ (∀ n, most = some n → x.length ≤ n) ∧ k = [] :=
  ⟨fun | .run ahead inside enough bounded => ⟨ahead, inside, enough, bounded, rfl⟩,
    fun ⟨ahead, inside, enough, bounded, caught⟩ => caught ▸ .run ahead inside enough bounded⟩

theorem takes_group {name : Option String} :
    Takes (.group name r) c x k ↔ ∃ l, k = name.toList.map (·, x) ++ l ∧ Takes r c x l :=
  ⟨fun | .group body => ⟨_, rfl, body⟩, fun ⟨_, caught, body⟩ => caught ▸ .group body⟩

end Inversion

theorem mem_orStay_choices {greedy : Bool} {c : Cursor} {going : List Reach} {e : Reach} :
    e ∈ (if greedy then going ++ [Reach.stay c] else Reach.stay c :: going) ↔
      e ∈ going ∨ e = Reach.stay c := by
  cases greedy
  · simp [or_comm]
  · simp

/-- The matcher finds only what the expression takes. -/
theorem takes_of_mem_ends {r : Regex} (straight : r.Straight) {c : Cursor} {e : Reach}
    (member : e ∈ r.ends c) : ∃ x, Takes r c x e.captures ∧ e.cursor = c.past x := by
  induction r generalizing c e with
  | empty =>
    obtain rfl := List.mem_singleton.1 member
    exact ⟨[], .empty, rfl⟩
  | one set =>
    simp only [ends, leafEnds] at member
    split at member
    next a rest ahead =>
      split at member
      next inside =>
        obtain rfl := List.mem_singleton.1 member
        exact ⟨[a], .one ⟨rest, ahead.symm⟩ inside, (Cursor.past_singleton ahead).symm⟩
      next => simp at member
    next => simp at member
  | anchor condition =>
    simp only [ends, leafEnds] at member
    split at member
    next holds =>
      obtain rfl := List.mem_singleton.1 member
      exact ⟨[], .anchor holds, rfl⟩
    next => simp at member
  | seq r s first second =>
    have found := Reach.mem_of_mem_firsts member
    obtain ⟨f, reached, later⟩ := List.mem_flatMap.1 found
    obtain ⟨g, reached_later, rfl⟩ := List.mem_map.1 later
    obtain ⟨x, takes_first, at_first⟩ := first straight.1 reached
    obtain ⟨y, takes_second, at_second⟩ := second straight.2 reached_later
    rw [at_first] at takes_second at_second
    exact ⟨x ++ y, .seq takes_first takes_second, at_second.trans (Cursor.past_past c x y)⟩
  | alt r s first second =>
    rcases List.mem_append.1 (Reach.mem_of_mem_firsts member) with reached | reached
    · obtain ⟨x, takes, leads⟩ := first straight.1 reached
      exact ⟨x, .left takes, leads⟩
    · obtain ⟨x, takes, leads⟩ := second straight.2 reached
      exact ⟨x, .right takes, leads⟩
  | run set least most greedy =>
    obtain ⟨d, reached, rfl⟩ := List.mem_map.1 member
    obtain ⟨x, ahead, inside, enough, bounded, leads⟩ := mem_runEnds.1 reached
    exact ⟨x, .run ahead inside enough bounded, leads⟩
  | optional r greedy ih =>
    rcases mem_orStay_choices.1 (Reach.mem_of_mem_firsts member) with reached | rfl
    · obtain ⟨x, takes, leads⟩ := ih straight reached
      exact ⟨x, .enter takes, leads⟩
    · exact ⟨[], .skip, rfl⟩
  | loop => exact straight.elim
  | group name r ih =>
    obtain ⟨f, reached, rfl⟩ := List.mem_map.1 member
    obtain ⟨x, takes, leads⟩ := ih straight reached
    refine ⟨x, ?_, ?_⟩
    · cases name with
      | none => exact .group takes
      | some name =>
        have caught : c.upTo f.cursor = x := leads ▸ Cursor.upTo_past takes.ahead
        have whole : Takes (.group (some name) r) c x ((some name).toList.map (·, x) ++ f.captures) :=
          .group takes
        simpa [noted, caught] using whole
    · cases name <;> exact leads

theorem ahead_of_mem_ends {r : Regex} (straight : r.Straight) {c : Cursor} {e : Reach}
    (member : e ∈ r.ends c) : ∃ x, x <+: c.rest ∧ e.cursor = c.past x := by
  obtain ⟨x, takes, leads⟩ := takes_of_mem_ends straight member
  exact ⟨x, takes.ahead, leads⟩

theorem ahead_of_choices {r : Regex} (straight : r.Straight) {greedy : Bool} {c : Cursor} :
    ∀ e ∈ (if greedy then r.ends c ++ [Reach.stay c] else Reach.stay c :: r.ends c),
      ∃ x, x <+: c.rest ∧ e.cursor = c.past x := by
  intro e member
  rcases mem_orStay_choices.1 member with reached | rfl
  · exact ahead_of_mem_ends straight reached
  · exact ⟨[], List.nil_prefix, rfl⟩

/-- The matcher finds a way to every place that the expression can take the text to. -/
theorem exists_mem_ends {r : Regex} (straight : r.Straight) {c : Cursor} {x : List Char}
    {k : List (String × List Char)} (takes : Takes r c x k) : ∃ e ∈ r.ends c, e.cursor = c.past x := by
  induction takes with
  | empty => exact ⟨_, List.mem_singleton_self _, rfl⟩
  | @one set c a ahead inside =>
    obtain ⟨rest, same⟩ := ahead
    have first : c.rest = a :: rest := same.symm
    refine ⟨Reach.stay (c.past [a]), ?_, rfl⟩
    rw [Cursor.past_singleton first]
    simp [ends, leafEnds, first, inside]
  | @anchor condition c holds =>
    refine ⟨Reach.stay c, ?_, rfl⟩
    rw [ends, leafEnds, if_pos holds]
    · exact List.mem_singleton_self _
    all_goals simp
  | @seq r s c x y k l first second ih_first ih_second =>
    obtain ⟨f, reached, at_first⟩ := ih_first straight.1
    obtain ⟨g, reached_later, at_second⟩ := ih_second straight.2
    rw [← at_first] at reached_later
    have stretch : x ++ y <+: c.rest := Cursor.prefix_append first.ahead second.ahead
    have member : g.after f.captures ∈
        (r.ends c).flatMap fun f => (s.ends f.cursor).map (Reach.after f.captures) :=
      List.mem_flatMap.2 ⟨f, reached, List.mem_map.2 ⟨g, reached_later, rfl⟩⟩
    refine Reach.exists_mem_firsts_past (fun e member => ?_) member stretch
      (at_second.trans (Cursor.past_past c x y))
    obtain ⟨f, reached, later⟩ := List.mem_flatMap.1 member
    obtain ⟨g, reached_later, rfl⟩ := List.mem_map.1 later
    obtain ⟨x, ahead, at_first⟩ := ahead_of_mem_ends straight.1 reached
    obtain ⟨y, ahead_later, at_second⟩ := ahead_of_mem_ends straight.2 reached_later
    rw [at_first] at ahead_later at_second
    exact ⟨x ++ y, Cursor.prefix_append ahead ahead_later, at_second.trans (Cursor.past_past c x y)⟩
  | @left r s c x k branch ih =>
    obtain ⟨e, reached, leads⟩ := ih straight.1
    refine Reach.exists_mem_firsts_past (fun e member => ?_) (List.mem_append_left _ reached)
      branch.ahead leads
    rcases List.mem_append.1 member with reached | reached
    · exact ahead_of_mem_ends straight.1 reached
    · exact ahead_of_mem_ends straight.2 reached
  | @right r s c x k branch ih =>
    obtain ⟨e, reached, leads⟩ := ih straight.2
    refine Reach.exists_mem_firsts_past (fun e member => ?_) (List.mem_append_right _ reached)
      branch.ahead leads
    rcases List.mem_append.1 member with reached | reached
    · exact ahead_of_mem_ends straight.1 reached
    · exact ahead_of_mem_ends straight.2 reached
  | run ahead inside enough bounded =>
    exact ⟨_, List.mem_map_of_mem (mem_runEnds.2 ⟨_, ahead, inside, enough, bounded, rfl⟩), rfl⟩
  | @skip r greedy c =>
    exact Reach.exists_mem_firsts_past (ahead_of_choices (r := r) straight)
      (mem_orStay_choices.2 (.inr rfl)) List.nil_prefix rfl
  | @enter r greedy c x k body ih =>
    obtain ⟨e, reached, leads⟩ := ih straight
    exact Reach.exists_mem_firsts_past (ahead_of_choices (r := r) straight)
      (mem_orStay_choices.2 (.inl reached)) body.ahead leads
  | @group name r c x k body ih =>
    obtain ⟨e, reached, leads⟩ := ih straight
    exact ⟨_, List.mem_map_of_mem reached, by cases name <;> exact leads⟩

section Chains

variable {c : Cursor} {x : List Char} {k : List (String × List Char)}

theorem takes_chain_nil : Takes (chain []) c x k ↔ x = [] ∧ k = [] := takes_empty

theorem takes_chain_cons (r : Regex) (rs : List Regex) : Takes (chain (r :: rs)) c x k ↔
    ∃ y z l m, x = y ++ z ∧ k = m ++ l ∧ Takes r c y l ∧ Takes (chain rs) (c.past y) z m := by
  induction rs generalizing r c x k with
  | nil =>
    constructor
    · intro takes
      exact ⟨x, [], k, [], (List.append_nil x).symm, rfl, takes, .empty⟩
    · intro given
      obtain ⟨y, z, l, m, rfl, rfl, takes, rest⟩ := given
      obtain ⟨rfl, rfl⟩ := takes_chain_nil.1 rest
      rw [List.append_nil]
      exact takes
  | cons s rs ih =>
    have regroup : Takes (chain (r :: s :: rs)) c x k ↔ Takes (chain (.seq r s :: rs)) c x k := Iff.rfl
    rw [regroup, ih]
    constructor
    · intro given
      obtain ⟨_, z, _, m, rfl, rfl, pair, rest⟩ := given
      obtain ⟨y, w, l, n, rfl, rfl, first, second⟩ := takes_seq.1 pair
      refine ⟨y, w ++ z, l, m ++ n, List.append_assoc .., (List.append_assoc ..).symm, first, ?_⟩
      exact (ih s).2 ⟨w, z, n, m, rfl, rfl, second, by rwa [Cursor.past_past]⟩
    · intro given
      obtain ⟨y, _, l, _, rfl, rfl, first, later⟩ := given
      obtain ⟨w, z, n, m, rfl, rfl, second, rest⟩ := (ih s).1 later
      rw [Cursor.past_past] at rest
      exact ⟨y ++ w, z, n ++ l, m, (List.append_assoc ..).symm, List.append_assoc .., .seq first second, rest⟩

theorem takes_chain_append (rs ss : List Regex) : Takes (chain (rs ++ ss)) c x k ↔
    ∃ y z l m, x = y ++ z ∧ k = m ++ l ∧ Takes (chain rs) c y l ∧ Takes (chain ss) (c.past y) z m := by
  induction rs generalizing c x k with
  | nil =>
    constructor
    · intro takes
      exact ⟨[], x, [], k, rfl, (List.append_nil k).symm, .empty, takes⟩
    · intro given
      obtain ⟨y, z, l, m, rfl, rfl, nothing, takes⟩ := given
      obtain ⟨rfl, rfl⟩ := takes_chain_nil.1 nothing
      rw [List.append_nil]
      exact takes
  | cons r rs ih =>
    rw [List.cons_append, takes_chain_cons]
    constructor
    · intro given
      obtain ⟨y, _, l, _, rfl, rfl, first, later⟩ := given
      obtain ⟨w, z, n, m, rfl, rfl, middle, last⟩ := ih.1 later
      rw [Cursor.past_past] at last
      exact ⟨y ++ w, z, n ++ l, m, (List.append_assoc ..).symm, List.append_assoc ..,
        (takes_chain_cons r rs).2 ⟨y, w, l, n, rfl, rfl, first, middle⟩, last⟩
    · intro given
      obtain ⟨_, z, _, m, rfl, rfl, head, last⟩ := given
      obtain ⟨y, w, l, n, rfl, rfl, first, middle⟩ := (takes_chain_cons r rs).1 head
      exact ⟨y, w ++ z, l, m ++ n, List.append_assoc .., (List.append_assoc ..).symm, first,
        ih.2 ⟨w, z, n, m, rfl, rfl, middle, by rwa [Cursor.past_past]⟩⟩

/-- At most one round, in whichever form it is kept. -/
theorem takes_repeated_once (r : Regex) (greedy : Bool) :
    Takes (r.repeated 0 (some 1) greedy) c x k ↔ x = [] ∧ k = [] ∨ Takes r c x k := by
  unfold repeated
  split
  next set =>
    rw [takes_run, takes_one]
    constructor
    · intro given
      obtain ⟨ahead, inside, _, bounded, rfl⟩ := given
      match x, bounded 1 rfl with
      | [], _ => exact .inl ⟨rfl, rfl⟩
      | [a], _ => exact .inr ⟨a, rfl, ahead, inside a (List.mem_singleton_self a), rfl⟩
    · intro given
      rcases given with ⟨rfl, rfl⟩ | ⟨a, rfl, ahead, inside, rfl⟩
      · exact ⟨List.nil_prefix, by simp, Nat.zero_le _, by simp, rfl⟩
      · exact ⟨ahead, by simpa using inside, Nat.zero_le _, by simp, rfl⟩
  next => rw [if_pos ⟨rfl, rfl⟩, takes_optional]

theorem straight_chain {rs : List Regex} (straight : ∀ r ∈ rs, r.Straight) : (chain rs).Straight := by
  cases rs with
  | nil => trivial
  | cons r rs =>
    obtain ⟨first, later⟩ := List.forall_mem_cons.1 straight
    clear straight
    induction rs generalizing r with
    | nil => exact first
    | cons s rs ih =>
      obtain ⟨second, rest⟩ := List.forall_mem_cons.1 later
      exact ih (.seq r s) ⟨first, second⟩ rest

theorem straight_repeated_once {r : Regex} (straight : r.Straight) (greedy : Bool) :
    (r.repeated 0 (some 1) greedy).Straight := by
  unfold repeated
  split
  next => trivial
  next => rwa [if_pos ⟨rfl, rfl⟩]

end Chains

/-- A search that finds a match has found one from some place of the text. -/
theorem takes_of_search {r : Regex} (straight : r.Straight) {text : List Char}
    {k : List (String × List Char)} (found : r.search text = some k) :
    ∃ c ∈ (Cursor.start text).places, ∃ x, Takes r c x k := by
  obtain ⟨c, place, first⟩ := List.exists_of_findSome?_eq_some found
  obtain ⟨e, head, rfl⟩ := Option.map_eq_some_iff.1 first
  obtain ⟨x, takes, _⟩ := takes_of_mem_ends straight (List.mem_of_head? head)
  exact ⟨c, place, x, takes⟩

theorem isSome_search {r : Regex} (straight : r.Straight) {text : List Char} {x : List Char}
    {k : List (String × List Char)} (takes : Takes r (Cursor.start text) x k) :
    (r.search text).isSome := by
  obtain ⟨e, reached, _⟩ := exists_mem_ends straight takes
  rw [search, List.findSome?_isSome_iff]
  refine ⟨Cursor.start text, Cursor.start_mem_places text, ?_⟩
  rw [Option.isSome_map, List.isSome_head?]
  exact List.ne_nil_of_mem reached

end Regex

end UrlRouting
