import UrlRouting.Regex.Escape

/-! Bracketed sets: characters, ranges, escapes, named classes and nested brackets, joined, and
combined by intersection, difference and symmetric difference. -/

namespace UrlRouting.Regex

structure WrittenSet where
  set : CharSet
  depth : Nat
deriving DecidableEq, Repr, Inhabited

structure Members where
  count : Nat
  ranges : List (Nat × Nat)
  depth : Nat
deriving DecidableEq, Repr, Inhabited

namespace Members

def none : Members := ⟨0, [], 0⟩

def add (m : Members) (s : CharSet) (depth : Nat) : Members :=
  ⟨m.count + 1, s.ranges ++ m.ranges, max m.depth depth⟩

/-- Two members or more make a level of nesting of their own. -/
def written (m : Members) : WrittenSet :=
  ⟨CharSet.ofRanges m.ranges, if m.count < 2 then m.depth else m.depth + 1⟩

end Members

inductive SetOperator where
  | intersection
  | difference
  | symmetricDifference
deriving DecidableEq, Repr

def SetOperator.apply (o : Options) (op : SetOperator) (left right : WrittenSet) : WrittenSet :=
  let a := o.fold left.set
  let b := o.fold right.set
  let set := match op with
    | .intersection => a.inter b
    | .difference => a.diff b
    | .symmetricDifference => a.symmDiff b
  ⟨set, max left.depth right.depth + 1⟩

def settle (o : Options) (pending : Option (SetOperator × WrittenSet)) (m : Members) : WrittenSet :=
  match pending with
  | some (op, left) => op.apply o left m.written
  | none => m.written

def asciiClass? (name : String) : Option CharSet :=
  match name with
  | "alnum" => some ⟨[(48, 57), (65, 90), (97, 122)]⟩
  | "alpha" => some ⟨[(65, 90), (97, 122)]⟩
  | "ascii" => some ⟨[(0, 127)]⟩
  | "blank" => some ⟨[(9, 9), (32, 32)]⟩
  | "cntrl" => some ⟨[(0, 31), (127, 127)]⟩
  | "digit" => some asciiDigitSet
  | "graph" => some ⟨[(33, 126)]⟩
  | "lower" => some ⟨[(97, 122)]⟩
  | "print" => some ⟨[(32, 126)]⟩
  | "punct" => some ⟨[(33, 47), (58, 64), (91, 96), (123, 126)]⟩
  | "space" => some asciiBlankSet
  | "upper" => some ⟨[(65, 90)]⟩
  | "word" => some asciiWordSet
  | "xdigit" => some ⟨[(48, 57), (65, 70), (97, 102)]⟩
  | _ => none

/-- A named class such as `[:alpha:]`, after its opening bracket. Text that is not one is no
error here: the bracket then opens a nested set. -/
def namedClass? (text : List Char) : Option (CharSet × Bool × List Char) :=
  match text with
  | ':' :: rest =>
    let (negated, rest) := match rest with
      | '^' :: more => (true, more)
      | _ => (false, rest)
    match rest.dropWhile (· != ':') with
    | ':' :: ']' :: after =>
      (asciiClass? (String.ofList (rest.takeWhile (· != ':')))).map fun s => (s, negated, after)
    | _ => none
  | _ => none

/-- A set is kept within the option for whole characters: without it only the first 128 are
allowed. -/
def confine (o : Options) (s : CharSet) : Option CharSet :=
  if o.unicode || s.isAscii then some s else none

def foldAndNegate (o : Options) (negated : Bool) (s : CharSet) : Option CharSet :=
  let folded := o.fold s
  confine o (if negated then folded.compl else folded)

def bracketItem? (o : Options) : List Char → Option (Escape × List Char)
  | [] => none
  | '\\' :: rest => escape? o rest
  | c :: rest => some (.literal c false, rest)

def plainChar? (o : Options) : Escape → Option Char
  | .literal c _ => if o.unicode || decide (c.toNat < 128) then some c else none
  | _ => none

def itemSet? (o : Options) (e : Escape) : Option CharSet :=
  match e with
  | .literal _ _ => (plainChar? o e).map CharSet.single
  | .set s => some s
  | .anchor _ => none

def peekPast (o : Options) (text : List Char) : Option Char :=
  let rest := text.drop 1
  if o.verbose then
    let blankless := rest.dropWhile Unicode.isBlank
    let comment := match blankless with
      | '#' :: more => more.dropWhile Unicode.isBlank
      | other => other
    match comment with
    | c :: _ => some c
    | [] => rest.head?
  else rest.head?

def member? (o : Options) (text : List Char) : Option (CharSet × List Char) := do
  let (first, rest) ← bracketItem? o text
  let rest := o.skip rest
  match rest with
  | [] => none
  | c :: _ =>
    let next := peekPast o rest
    if c != '-' || next == some ']' || next == some '-' then do
      let s ← itemSet? o first
      some (s, rest)
    else do
      let (second, rest) ← bracketItem? o (o.skip (rest.drop 1))
      let lo ← plainChar? o first
      let hi ← plainChar? o second
      if lo ≤ hi then some (⟨[(lo.toNat, hi.toNat)]⟩, rest) else none

def leadingHyphens (o : Options) (m : Members) : Nat → List Char → Option (Members × List Char)
  | fuel + 1, '-' :: rest => leadingHyphens o (m.add (CharSet.single '-') 0) fuel (o.skip rest)
  | _, [] => none
  | _, text => some (m, text)

/-- What opens a bracket: a negation, hyphens, and a closing bracket that stands for itself. -/
def openBracket? (o : Options) (text : List Char) : Option (Bool × Members × List Char) := do
  let text := o.skip text
  let (negated, text) := match text with
    | '^' :: rest => (true, o.skip rest)
    | _ => (false, text)
  let (m, text) ← leadingHyphens o Members.none text.length text
  match text with
  | ']' :: rest =>
    if m.count = 0 then
      match o.skip rest with
      | [] => none
      | more => some (negated, m.add (CharSet.single ']') 0, more)
    else some (negated, m, text)
  | _ => some (negated, m, text)

mutual

def bracket? (o : Options) : Nat → List Char → Option (WrittenSet × List Char)
  | 0, _ => none
  | fuel + 1, text => do
    let (negated, m, rest) ← openBracket? o text
    let (inner, rest) ← operands? o none m fuel rest
    let set ← foldAndNegate o negated inner.set
    some (⟨set, inner.depth + 1⟩, rest)

def operands? (o : Options) (pending : Option (SetOperator × WrittenSet)) (m : Members) :
    Nat → List Char → Option (WrittenSet × List Char)
  | 0, _ => none
  | fuel + 1, text =>
    match o.skip text with
    | [] => none
    | ']' :: rest => some (settle o pending m, rest)
    | '[' :: rest =>
      match namedClass? rest with
      | some (s, negated, rest) => do
        let s ← foldAndNegate o negated s
        operands? o pending (m.add s 0) fuel rest
      | none => do
        let (inner, rest) ← bracket? o fuel rest
        operands? o pending (m.add inner.set inner.depth) fuel rest
    | '&' :: '&' :: rest =>
      operands? o (some (.intersection, settle o pending m)) Members.none fuel rest
    | '-' :: '-' :: rest =>
      operands? o (some (.difference, settle o pending m)) Members.none fuel rest
    | '~' :: '~' :: rest =>
      operands? o (some (.symmetricDifference, settle o pending m)) Members.none fuel rest
    | text => do
      let (s, rest) ← member? o text
      operands? o pending (m.add s 0) fuel rest

end

end UrlRouting.Regex
