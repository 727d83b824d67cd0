import UrlRouting.Regex.Bracket

/-! Reading of expressions. The reader keeps the groups that are still open, each with the parts
read so far, and takes one part at a time. -/

namespace UrlRouting.Regex

inductive Wrap where
  | plain
  | capture (name : Option String)
deriving DecidableEq, Repr

structure Branch where
  parts : List Node
  earlier : List Node
deriving DecidableEq, Repr, Inhabited

namespace Branch

def fresh : Branch := ⟨[], []⟩

def push (b : Branch) (n : Node) : Branch := ⟨n :: b.parts, b.earlier⟩

def next (b : Branch) : Branch := ⟨[], Node.concat b.parts.reverse :: b.earlier⟩

def close (b : Branch) : Node :=
  Node.alternation (Node.concat b.parts.reverse :: b.earlier).reverse

end Branch

structure OpenGroup where
  wrap : Wrap
  outer : Options
  branch : Branch
deriving Repr

structure ParseState where
  options : Options
  branch : Branch
  groups : List OpenGroup
deriving Repr

inductive Opening where
  | group (wrap : Wrap) (inner : Options)
  | setting (options : Options)
deriving Repr

def isNameStart (c : Char) : Bool := c == '_' || Unicode.isAlphabetic c

def isNameInner (c : Char) : Bool :=
  c == '_' || c == '.' || c == '[' || c == ']' || Unicode.isAlphanumeric c

def groupName? (text : List Char) : Option (String × List Char) :=
  let name := text.takeWhile (· != '>')
  match name, text.dropWhile (· != '>') with
  | c :: inner, '>' :: rest =>
    if isNameStart c && inner.all isNameInner then some (String.ofList name, rest) else none
  | _, _ => none

/-- Option letters up to a colon or a closing parenthesis; `seen` are the letters so far. -/
def optionLetters? (o : Options) (seen : List Char) (negated dangling : Bool) :
    List Char → Option (Options × Bool × Char × List Char)
  | [] => none
  | c :: rest =>
    if c = ':' ∨ c = ')' then if dangling then none else some (o, !seen.isEmpty, c, rest)
    else if seen.contains c then none
    else if c = '-' then optionLetters? o (c :: seen) true true rest
    else do
      let o ← o.switch? c (!negated)
      optionLetters? o (c :: seen) negated false rest

/-- Reads what follows an opening parenthesis. Look-around is not part of the notation. -/
def opening? (o : Options) (text : List Char) : Option (Opening × List Char) :=
  match o.skip text with
  | '?' :: 'P' :: '<' :: rest => named rest
  | '?' :: '<' :: '=' :: _ => none
  | '?' :: '<' :: '!' :: _ => none
  | '?' :: '<' :: rest => named rest
  | '?' :: rest => do
    let (inner, any, stop, rest) ← optionLetters? o [] false false rest
    if stop = ':' then some (.group .plain inner, rest)
    else if any then some (.setting inner, rest)
    else none
  | rest => some (.group (.capture none) o, rest)
where
  named (rest : List Char) : Option (Opening × List Char) := do
    let (name, rest) ← groupName? rest
    some (.group (.capture (some name)) o, rest)

/-- Reads digits, with blanks allowed around them, as a number of 32 bits; the outer option is
none for one that is too large, the inner for one without digits. -/
def decimal? (o : Options) (text : List Char) : Option (Option Nat × List Char) :=
  let rec digits (acc : Nat) (any : Bool) : Nat → List Char → Option Nat × List Char
    | fuel + 1, c :: rest =>
      if Unicode.isAsciiDigit c then digits (acc * 10 + (c.toNat - 48)) true fuel (o.skip rest)
      else (if any then some acc else none, c :: rest)
    | _, text => (if any then some acc else none, text)
  let rec blanks : Nat → List Char → List Char
    | fuel + 1, c :: rest => if Unicode.isBlank c then blanks fuel (o.skip rest) else c :: rest
    | _, text => text
  let (value, rest) := digits 0 false text.length (text.dropWhile Unicode.isBlank)
  let rest := blanks text.length rest
  match value with
  | some n => if n < 0x100000000 then some (some n, rest) else none
  | none => some (none, rest)

def bounds? (o : Options) (text : List Char) : Option ((Nat × Option Nat) × List Char) := do
  let text := o.skip text
  if text.isEmpty then none
  let (low, rest) ← decimal? o text
  match rest with
  | ',' :: rest =>
    match o.skip rest with
    | [] => none
    | '\x7d' :: rest => do
      let low ← low
      some ((low, none), rest)
    | rest => do
      let low ← low
      let (high, rest) ← decimal? o rest
      let high ← high
      match rest with
      | '\x7d' :: rest => if low ≤ high then some ((low, some high), rest) else none
      | _ => none
  | '\x7d' :: rest => do
    let low ← low
    some ((low, some low), rest)
  | _ => none

def repeatLast? (st : ParseState) (least : Nat) (most : Option Nat) (lazy : Bool) :
    Option ParseState :=
  match st.branch.parts with
  | n :: parts =>
    if n.bare then none
    else
      let greedy := lazy == st.options.swapGreed
      some { st with branch := ⟨n.repeated least most greedy :: parts, st.branch.earlier⟩ }
  | [] => none

def lazyMark (text : List Char) : Bool × List Char :=
  match text with
  | '?' :: rest => (true, rest)
  | _ => (false, text)

/-- One character under the options: without the Unicode option a byte above 127 is refused. -/
def literalNode? (o : Options) (c : Char) (byte : Bool) : Option Node :=
  if !o.unicode && byte && decide (127 < c.toNat) then none
  else if o.ignoreCase && (o.unicode || decide (c.toNat < 128)) then
    some (Node.leaf (.one (o.fold (CharSet.single c))))
  else some (Node.literal c)

def dotNode? (o : Options) : Option Node :=
  if !o.unicode then none
  else if o.dotAll then some (Node.leaf (.one CharSet.all))
  else if o.anyLineMark then
    some (Node.leaf (.one (CharSet.ofRanges [(10, 10), (13, 13)]).compl))
  else some (Node.leaf (.one (CharSet.except '\n')))

def lineStartAnchor (o : Options) : Anchor :=
  if o.multiLine then (if o.anyLineMark then .anyLineStart else .lineStart) else .textStart

def lineEndAnchor (o : Options) : Anchor :=
  if o.multiLine then (if o.anyLineMark then .anyLineEnd else .lineEnd) else .textEnd

def escapeNode? (o : Options) : Escape → Option Node
  | .literal c byte => literalNode? o c byte
  | .set s => some (Node.leaf (.one s))
  | .anchor a => some (Node.leaf (.anchor a))

def part? (o : Options) : List Char → Option (Node × List Char)
  | [] => none
  | '\\' :: rest => do
    let (e, rest) ← escape? o rest
    let n ← escapeNode? o e
    some (n, rest)
  | '.' :: rest => (dotNode? o).map (·, rest)
  | '^' :: rest => some (Node.leaf (.anchor (lineStartAnchor o)), rest)
  | '$' :: rest => some (Node.leaf (.anchor (lineEndAnchor o)), rest)
  | '[' :: rest => do
    let (s, rest) ← bracket? o (2 * rest.length + 2) rest
    some (⟨.one s.set, s.depth, false⟩, rest)
  | c :: rest => (literalNode? o c false).map (·, rest)

def closeGroup? (st : ParseState) : Option ParseState :=
  match st.groups with
  | [] => none
  | g :: groups =>
    let inner := st.branch.close
    let whole := match g.wrap with
      | .plain => Node.enclosed inner
      | .capture name => Node.group name inner
    some ⟨g.outer, g.branch.push whole, groups⟩

def step? (st : ParseState) : List Char → Option (ParseState × List Char)
  | '(' :: rest => do
    let (opening, rest) ← opening? st.options rest
    match opening with
    | .setting o => some ({ st with options := o, branch := st.branch.push Node.setting }, rest)
    | .group wrap inner =>
      some (⟨inner, Branch.fresh, ⟨wrap, st.options, st.branch⟩ :: st.groups⟩, rest)
  | ')' :: rest => (closeGroup? st).map (·, rest)
  | '|' :: rest => some ({ st with branch := st.branch.next }, rest)
  | '?' :: rest =>
    let (lazy, rest) := lazyMark rest
    (repeatLast? st 0 (some 1) lazy).map (·, rest)
  | '*' :: rest =>
    let (lazy, rest) := lazyMark rest
    (repeatLast? st 0 none lazy).map (·, rest)
  | '+' :: rest =>
    let (lazy, rest) := lazyMark rest
    (repeatLast? st 1 none lazy).map (·, rest)
  | '\x7b' :: rest => do
    let ((least, most), rest) ← bounds? st.options rest
    let (lazy, rest) := lazyMark (st.options.skip rest)
    let st ← repeatLast? st least most lazy
    some (st, rest)
  | text => do
    let (n, rest) ← part? st.options text
    some ({ st with branch := st.branch.push n }, rest)

def parts? : Nat → ParseState → List Char → Option ParseState
  | 0, _, _ => none
  | fuel + 1, st, text =>
    match st.options.skip text with
    | [] => some st
    | text => do
      let (st, rest) ← step? st text
      parts? fuel st rest

def Node.parse? (text : List Char) : Option Node := do
  let st ← parts? (text.length + 1) ⟨Options.standard, Branch.fresh, []⟩ text
  if st.groups.isEmpty then some st.branch.close else none

def compile? (text : List Char) : Option Regex := (Node.parse? text).bind Node.compile?

end UrlRouting.Regex
