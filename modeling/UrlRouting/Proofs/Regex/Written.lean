import UrlRouting.Regex.Parse

/-! Reading an expression piece by piece. A piece of its text is read as a number of parts, whatever
stands around it, except that a question mark after a repetition belongs to it. -/

namespace UrlRouting.Regex

/-- The state with more parts on the branch under way. -/
def ParseState.pushed (st : ParseState) (ns : List Node) : ParseState :=
  { st with branch := ⟨ns.reverse ++ st.branch.parts, st.branch.earlier⟩ }

/-- Nothing is read yet. -/
abbrev ParseState.initial : ParseState := ⟨.standard, Branch.fresh, []⟩

/-- Reading the text leads from one state to another, in no more steps than it has characters. -/
def Reading (st : ParseState) (x : List Char) (last : ParseState) : Prop :=
  ∃ n ≤ x.length, ∀ fuel rest, rest.head? ≠ some '?' →
    parts? (n + fuel) st (x ++ rest) = parts? fuel last rest

/-- The text is read as these parts. -/
def Written (x : List Char) (ns : List Node) : Prop :=
  ∀ st : ParseState, st.options = .standard → Reading st x (st.pushed ns)

theorem ParseState.pushed_pushed (st : ParseState) (ns ms : List Node) :
    (st.pushed ns).pushed ms = st.pushed (ns ++ ms) := by
  simp only [pushed, List.reverse_append, List.append_assoc]

theorem parts?_step {st next : ParseState} {c : Char} {text rest : List Char} {fuel : Nat}
    (standard : st.options = .standard) (step : step? st (c :: text) = some (next, rest)) :
    parts? (fuel + 1) st (c :: text) = parts? fuel next rest := by
  have skipped : st.options.skip (c :: text) = c :: text := by
    rw [standard]
    rfl
  rw [parts?, skipped]
  simp only [step, Option.bind_eq_bind, Option.bind_some]

theorem Reading.nil (st : ParseState) : Reading st [] st :=
  ⟨0, Nat.le_refl 0, fun fuel rest _ => by rw [Nat.zero_add, List.nil_append]⟩

theorem Reading.append {st mid last : ParseState} {x y : List Char} (left : Reading st x mid)
    (right : Reading mid y last) (follows : y.head? ≠ some '?') : Reading st (x ++ y) last := by
  obtain ⟨n, few, read⟩ := left
  obtain ⟨m, few', read'⟩ := right
  refine ⟨n + m, by rw [List.length_append]; omega, fun fuel rest after => ?_⟩
  have between : (y ++ rest).head? ≠ some '?' := by
    cases y with
    | nil => exact after
    | cons c y => exact follows
  rw [List.append_assoc, Nat.add_assoc, read _ _ between, read' _ _ after]

theorem Reading.of_step {st last : ParseState} {c : Char} {x : List Char}
    (standard : st.options = .standard)
    (step : ∀ rest, rest.head? ≠ some '?' → step? st (c :: (x ++ rest)) = some (last, rest)) :
    Reading st (c :: x) last := by
  refine ⟨1, by simp, fun fuel rest after => ?_⟩
  rw [Nat.add_comm, List.cons_append]
  exact parts?_step standard (step rest after)

theorem Reading.of_steps {st mid last : ParseState} {c d : Char} {x : List Char}
    (standard : st.options = .standard) (standard' : mid.options = .standard)
    (first : ∀ rest, step? st (c :: (x ++ rest)) = some (mid, rest))
    (second : ∀ rest, rest.head? ≠ some '?' → step? mid (d :: rest) = some (last, rest)) :
    Reading st (c :: x ++ [d]) last := by
  refine ⟨2, by simp, fun fuel rest after => ?_⟩
  have joined : c :: x ++ [d] ++ rest = c :: (x ++ (d :: rest)) := by simp
  rw [joined, Nat.add_comm]
  exact (parts?_step standard (first _)).trans (parts?_step standard' (second rest after))

theorem lazyMark_of_head? {rest : List Char} (after : rest.head? ≠ some '?') :
    lazyMark rest = (false, rest) := by
  unfold lazyMark
  split
  next => exact absurd rfl after
  next => rfl

theorem repeatLast?_pushed (st : ParseState) (standard : st.options = .standard) {n : Node}
    (bare : n.bare = false) (least : Nat) (most : Option Nat) :
    repeatLast? (st.pushed [n]) least most false = some (st.pushed [n.repeated least most true]) := by
  simp only [repeatLast?, ParseState.pushed, List.reverse_singleton, List.singleton_append, bare,
    Bool.false_eq_true, if_false]
  rw [standard]
  rfl

theorem written_nil : Written [] [] := fun st _ => Reading.nil st

theorem Written.append {x y : List Char} {ns ms : List Node} (left : Written x ns)
    (right : Written y ms) (follows : y.head? ≠ some '?') : Written (x ++ y) (ns ++ ms) := by
  intro st standard
  have first := left st standard
  have second := right (st.pushed ns) standard
  rw [ParseState.pushed_pushed] at second
  exact first.append second follows

theorem ne_of_isMeta {c d : Char} (plain : isMeta c = false) (special : isMeta d = true) : c ≠ d := by
  intro same
  rw [same, special] at plain
  cases plain

theorem literalNode?_standard (c : Char) : literalNode? .standard c false = some (Node.literal c) := rfl

theorem part?_plain {c : Char} (plain : isMeta c = false) (rest : List Char) :
    part? .standard (c :: rest) = some (Node.literal c, rest) := by
  rw [part?, literalNode?_standard]
  · rfl
  all_goals exact ne_of_isMeta plain (by decide)

theorem perlSet?_of_isMeta {c : Char} (special : isMeta c = true) : perlSet? .standard c = none := by
  rw [perlSet?]
  all_goals exact fun same => ne_of_isMeta (by decide) special same.symm

theorem escape?_of_isMeta {c : Char} (special : isMeta c = true) (rest : List Char) :
    escape? .standard (c :: rest) = some (.literal c false, rest) := by
  rw [escape?, perlSet?_of_isMeta special, isEscapable, special]
  · rfl
  all_goals exact fun same => ne_of_isMeta (by decide) special same.symm

theorem part?_escaped {c : Char} (special : isMeta c = true) (rest : List Char) :
    part? .standard ('\\' :: c :: rest) = some (Node.literal c, rest) := by
  rw [part?, escape?_of_isMeta special]
  rfl

/-- A character that opens, closes or repeats nothing begins a part. -/
theorem step?_part {st : ParseState} (standard : st.options = .standard) {c : Char} {n : Node}
    {text rest : List Char} (inert : c ∉ ['(', ')', '|', '?', '*', '+', '\x7b'])
    (part : part? .standard (c :: text) = some (n, rest)) :
    step? st (c :: text) = some (st.pushed [n], rest) := by
  have other {d : Char} (inside : d ∈ ['(', ')', '|', '?', '*', '+', '\x7b']) (more : List Char) :
      ¬c :: text = d :: more := fun same => inert ((List.cons.inj same).1 ▸ inside)
  rw [← standard] at part
  rw [step?, part]
  · rfl
  all_goals exact other (by decide)

theorem written_of_part {c : Char} {x : List Char} {n : Node}
    (inert : c ∉ ['(', ')', '|', '?', '*', '+', '\x7b'])
    (part : ∀ rest, part? .standard (c :: (x ++ rest)) = some (n, rest)) : Written (c :: x) [n] :=
  fun _ standard => Reading.of_step standard fun rest _ => step?_part standard inert (part rest)

theorem inert_of_plain {c : Char} (plain : isMeta c = false) :
    c ∉ ['(', ')', '|', '?', '*', '+', '\x7b'] := by
  intro inside
  have all : ['(', ')', '|', '?', '*', '+', '\x7b'].all isMeta = true := by decide
  rw [List.all_eq_true.1 all c inside] at plain
  cases plain

theorem written_plain {c : Char} (plain : isMeta c = false) :
    Written [c] [Node.literal c] :=
  written_of_part (inert_of_plain plain) (part?_plain plain)

theorem written_escaped {c : Char} (special : isMeta c = true) :
    Written ['\\', c] [Node.literal c] :=
  written_of_part (by decide) (part?_escaped special)

theorem written_textStart : Written ['^'] [Node.leaf (.anchor .textStart)] :=
  written_of_part (by decide) fun _ => rfl

theorem written_textEnd : Written ['$'] [Node.leaf (.anchor .textEnd)] :=
  written_of_part (by decide) fun _ => rfl

theorem step?_plus (st : ParseState) {rest : List Char} (after : rest.head? ≠ some '?') :
    step? st ('+' :: rest) = (repeatLast? st 1 none false).map (·, rest) := by
  rw [step?, lazyMark_of_head? after]

theorem step?_questionMark (st : ParseState) {rest : List Char} (after : rest.head? ≠ some '?') :
    step? st ('?' :: rest) = (repeatLast? st 0 (some 1) false).map (·, rest) := by
  rw [step?, lazyMark_of_head? after]

/-- A part and the mark that repeats it. -/
theorem written_repeated {c d : Char} {x : List Char} {n : Node} {least : Nat} {most : Option Nat}
    (marks : ∀ (st : ParseState) {rest : List Char}, rest.head? ≠ some '?' →
      step? st (d :: rest) = (repeatLast? st least most false).map (·, rest))
    (bare : n.bare = false) (inert : c ∉ ['(', ')', '|', '?', '*', '+', '\x7b'])
    (part : ∀ rest, part? .standard (c :: (x ++ rest)) = some (n, rest)) :
    Written (c :: x ++ [d]) [n.repeated least most true] := by
  intro st standard
  have standard' : (st.pushed [n]).options = .standard := standard
  refine Reading.of_steps standard standard' (fun rest => step?_part standard inert (part rest))
    fun rest after => ?_
  rw [marks _ after, repeatLast?_pushed st standard bare]
  rfl

/-- The state behind the opening of a group. -/
def ParseState.opened (st : ParseState) (wrap : Wrap) : ParseState :=
  ⟨.standard, Branch.fresh, ⟨wrap, st.options, st.branch⟩ :: st.groups⟩

def Wrap.whole (wrap : Wrap) (n : Node) : Node :=
  match wrap with
  | plain => n.enclosed
  | capture name => Node.group name n

theorem closeGroup?_opened (st : ParseState) (wrap : Wrap) (ns : List Node) :
    closeGroup? ((st.opened wrap).pushed ns) = some (st.pushed [wrap.whole (Node.concat ns)]) := by
  have body : ((st.opened wrap).pushed ns).branch.close = Node.concat ns := by
    change Node.concat (ns.reverse ++ []).reverse = _
    rw [List.append_nil, List.reverse_reverse]
  simp only [closeGroup?, body]
  cases wrap <;> rfl

theorem opening?_standard {text rest : List Char} {wrap : Wrap} {st : ParseState}
    (standard : st.options = .standard)
    (opens : opening? .standard text = some (.group wrap .standard, rest)) :
    step? st ('(' :: text) = some (st.opened wrap, rest) := by
  rw [step?, standard, opens, ParseState.opened, standard]
  rfl

theorem Reading.opening {st : ParseState} {x : List Char} {wrap : Wrap} (standard : st.options = .standard)
    (opens : ∀ rest, opening? .standard (x ++ rest) = some (.group wrap .standard, rest)) :
    Reading st ('(' :: x) (st.opened wrap) :=
  Reading.of_step standard fun rest _ => opening?_standard standard (opens rest)

/-- The opening of a group and its parts. -/
theorem Written.reading_group {x y : List Char} {ns : List Node} {wrap : Wrap} (body : Written y ns)
    (opens : ∀ rest, opening? .standard (x ++ rest) = some (.group wrap .standard, rest))
    (follows : y.head? ≠ some '?') {st : ParseState} (standard : st.options = .standard) :
    Reading st ('(' :: (x ++ y)) ((st.opened wrap).pushed ns) :=
  (Reading.opening standard opens).append (body (st.opened wrap) rfl) follows

theorem Written.capture {x y : List Char} {ns : List Node} {name : String} (body : Written y ns)
    (opens : ∀ rest, opening? .standard (x ++ rest) = some (.group (.capture (some name)) .standard, rest))
    (follows : y.head? ≠ some '?') :
    Written ('(' :: (x ++ y) ++ [')']) [Node.group (some name) (Node.concat ns)] := by
  intro st standard
  refine (body.reading_group opens follows standard).append ?_ (by decide)
  refine Reading.of_step rfl fun rest _ => ?_
  rw [List.nil_append, step?, closeGroup?_opened]
  rfl

/-- The end of a group that captures nothing and may be left out. -/
theorem Reading.closeOptional {st : ParseState} (standard : st.options = .standard) (ns : List Node) :
    Reading ((st.opened .plain).pushed ns) [')', '?']
      (st.pushed [(Node.concat ns).enclosed.repeated 0 (some 1) true]) := by
  have standard' : (st.pushed [(Node.concat ns).enclosed]).options = .standard := standard
  refine Reading.of_steps (x := []) rfl standard' (fun rest => ?_) fun rest after => ?_
  · rw [List.nil_append, step?, closeGroup?_opened]
    rfl
  · rw [step?_questionMark _ after, repeatLast?_pushed st standard rfl]
    rfl

theorem Written.optional {x y : List Char} {ns : List Node} (body : Written y ns)
    (opens : ∀ rest, opening? .standard (x ++ rest) = some (.group .plain .standard, rest))
    (follows : y.head? ≠ some '?') :
    Written ('(' :: (x ++ y) ++ [')', '?'])
      [(Node.concat ns).enclosed.repeated 0 (some 1) true] := by
  intro st standard
  exact (body.reading_group opens follows standard).append (Reading.closeOptional standard ns) (by decide)

theorem close_pushed (ns : List Node) :
    (ParseState.initial.pushed ns).branch.close = Node.concat ns := by
  change Node.concat (ns.reverse ++ []).reverse = _
  rw [List.append_nil, List.reverse_reverse]

/-- A text that is read as some parts is the expression that has them one after the other. -/
theorem Written.parse?_eq {x : List Char} {ns : List Node} (written : Written x ns) :
    Node.parse? x = some (Node.concat ns) := by
  obtain ⟨steps, few, read⟩ := written .initial rfl
  have ended := read (x.length + 1 - steps) [] (by decide)
  have fuel : steps + (x.length + 1 - steps) = x.length + 1 := by omega
  obtain ⟨left, more⟩ : ∃ k, x.length + 1 - steps = k + 1 := ⟨x.length - steps, by omega⟩
  rw [fuel, List.append_nil, more] at ended
  rw [Node.parse?, ended, ← close_pushed]
  rfl

end UrlRouting.Regex
