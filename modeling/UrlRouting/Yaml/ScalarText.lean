import UrlRouting.Yaml.Place

/-! The text of scalars. Inside a scalar a single line break stands for a blank, and of several the
first is left out; a literal block keeps them all. -/

namespace UrlRouting.Yaml

structure Gap where
  blanks : List Char
  broken : Bool
  first : List Char
  further : List Char
deriving DecidableEq, Repr, Inhabited

namespace Gap

def none : Gap := ⟨[], false, [], []⟩

def escapedBreak : Gap := ⟨[], true, [], []⟩

def folded (first further : List Char) : List Char :=
  if first = ['\n'] then (if further.isEmpty then [' '] else further) else first ++ further

def text (g : Gap) : List Char := if g.broken then folded g.first g.further else g.blanks

/-- Takes blanks and line breaks. After a break a tab must not stand before the column `limit`. -/
def take? (limit : Nat) : Nat → Gap → Place → Option (Gap × Place)
  | 0, g, p => some (g, p)
  | fuel + 1, g, p =>
    match p.rest with
    | [] => some (g, p)
    | c :: _ =>
      if isBlank c then
        if g.broken then
          if c = '\t' ∧ p.column < limit then Option.none else take? limit fuel g p.next
        else take? limit fuel { g with blanks := g.blanks ++ [c] } p.next
      else if isBreak c then
        let (mark, past) := p.takeBreak
        if g.broken then take? limit fuel { g with further := g.further ++ mark } past
        else take? limit fuel ⟨[], true, mark, []⟩ past
      else some (g, p)

end Gap

def shortEscape? (c : Char) : Option Char :=
  match c with
  | '0' => some '\x00'
  | 'a' => some '\x07'
  | 'b' => some '\x08'
  | 't' => some '\t'
  | '\t' => some '\t'
  | 'n' => some '\n'
  | 'v' => some '\x0b'
  | 'f' => some '\x0c'
  | 'r' => some '\r'
  | 'e' => some '\x1b'
  | ' ' => some ' '
  | '"' => some '"'
  | '/' => some '/'
  | '\\' => some '\\'
  | 'N' => some '\x85'
  | '_' => some '\xa0'
  | 'L' => some '\u2028'
  | 'P' => some '\u2029'
  | _ => none

def longEscape? (c : Char) : Option Nat :=
  match c with
  | 'x' => some 2
  | 'u' => some 4
  | 'U' => some 8
  | _ => none

def hexNumber? (digits : List Char) : Option Nat :=
  digits.foldlM (fun n c => (Percent.hexValue? c).map fun v => n * 16 + v) 0

def escape? (p : Place) : Option (Char × Place) :=
  match p.rest with
  | [] => none
  | c :: rest =>
    match shortEscape? c with
    | some d => some (d, p.next)
    | none => do
      let count ← longEscape? c
      let digits := rest.take count
      if digits.length < count then none
      let n ← hexNumber? digits
      if n.isValidChar then some (Char.ofNat n, p.skip (count + 1)) else none

inductive WordEnd where
  | quote
  | gap
  | escapedBreak
deriving DecidableEq, Repr

def quotedWord? (single : Bool) : Nat → List Char → Place → Option (List Char × WordEnd × Place)
  | 0, _, _ => none
  | fuel + 1, out, p =>
    match p.rest with
    | [] => some (out, .gap, p)
    | c :: rest =>
      if isBlank c || isBreak c then some (out, .gap, p)
      else if single then
        if c = '\'' then
          if rest.head? = some '\'' then quotedWord? single fuel ('\'' :: out) (p.skip 2)
          else some (out, .quote, p.next)
        else quotedWord? single fuel (c :: out) p.next
      else if c = '"' then some (out, .quote, p.next)
      else if c = '\\' then
        if rest.head?.any isBreak then some (out, .escapedBreak, p.next.takeBreak.2)
        else
          match escape? p.next with
          | some (d, past) => quotedWord? single fuel (d :: out) past
          | none => none
      else quotedWord? single fuel (c :: out) p.next

def quoted? (single : Bool) : Nat → List Char → Place → Option (List Char × Place)
  | 0, _, _ => none
  | fuel + 1, out, p => do
    if p.atDocumentMark || p.rest.isEmpty then none
    let (out, stop, p) ← quotedWord? single (p.rest.length + 1) out p
    match stop with
    | .quote => some (out.reverse, p)
    | .gap => do
      let (g, p) ← Gap.take? 0 p.rest.length Gap.none p
      quoted? single fuel (g.text.reverse ++ out) p
    | .escapedBreak =>
      if p.rest.head? = some (if single then '\'' else '"') then some (out.reverse, p.next)
      else do
        let (g, p) ← Gap.take? 0 p.rest.length Gap.escapedBreak p
        quoted? single fuel (g.text.reverse ++ out) p

def isFlowMark (c : Char) : Bool := c == ',' || c == '[' || c == ']' || c == '\x7b' || c == '\x7d'

/-- Reads the word of a plain scalar. Between brackets a colon must not stand right before one of
their marks. -/
def plainWord? (flow : Bool) : Nat → List Char → Place → Option (List Char × Place)
  | 0, _, _ => none
  | fuel + 1, out, p =>
    match p.rest with
    | [] => some (out, p)
    | c :: rest =>
      if isBlank c || isBreak c then some (out, p)
      else if flow && c == ':' && (rest.head?.any fun d => d == '?' || isFlowMark d) then none
      else if (c == ':' && endsWord rest) || (flow && isFlowMark c) then some (out, p)
      else plainWord? flow fuel (c :: out) p.next

/-- Reads a plain scalar; the answer tells whether it ends after a line break. `limit` is the least
column at which it may go on. -/
def plain? (flow : Bool) (limit : Nat) : Nat → List Char → Gap → Place →
    Option (List Char × Bool × Place)
  | 0, _, _, _ => none
  | fuel + 1, out, g, p => do
    let done := some (out.reverse, g.broken, p)
    if p.atDocumentMark || p.rest.head? == some '#' then done
    else
      let (word, past) ← plainWord? flow (p.rest.length + 1) [] p
      let (out, g) := if word.isEmpty then (out, g) else (word ++ (g.text.reverse ++ out), Gap.none)
      if past.rest.isEmpty || !endsWord past.rest then some (out.reverse, g.broken, past)
      else do
        let (g, p) ← Gap.take? limit past.rest.length g past
        if !flow && decide (p.column < limit) then some (out.reverse, g.broken, p)
        else plain? flow limit fuel out g p

inductive Chomping where
  | strip
  | clip
  | keep
deriving DecidableEq, Repr

def blockHeader? (p : Place) : Option (Chomping × Option Nat × Place) :=
  let chomping? (p : Place) : Option (Chomping × Place) :=
    match p.rest with
    | '+' :: _ => some (.keep, p.next)
    | '-' :: _ => some (.strip, p.next)
    | _ => none
  let width? (p : Place) : Option (Option Nat × Place) :=
    match p.rest with
    | c :: _ =>
      if c = '0' then none
      else if isDigit c then some (some (c.toNat - 48), p.next)
      else some (none, p)
    | [] => some (none, p)
  match chomping? p with
  | some (chomping, p) => do
    let (width, p) ← width? p
    some (chomping, width, p)
  | none => do
    let (width, p) ← width? p
    match width, chomping? p with
    | some _, some (chomping, p) => some (chomping, width, p)
    | _, _ => some (.clip, width, p)

/-- Takes indentation and empty lines before the content of a block scalar. `indent` is zero as long
as it is not known, and `widest` the widest indentation met. -/
def blockBreaks? (indent : Nat) : Nat → Nat → List Char → Place →
    Option (Nat × List Char × Place)
  | 0, _, _, _ => none
  | fuel + 1, widest, breaks, p =>
    let spaces := (p.rest.takeWhile (· == ' ')).length
    let p := p.skip (if indent = 0 then spaces else min spaces (indent - p.column))
    let widest := max widest p.column
    match p.rest with
    | [] => some (widest, breaks, p)
    | c :: _ =>
      if (indent = 0 ∨ p.column < indent) ∧ c = '\t' then none
      else if isBreak c then
        let (mark, past) := p.takeBreak
        blockBreaks? indent fuel widest (breaks ++ mark) past
      else some (widest, breaks, p)

/-- Reads the lines of a block scalar. `leading` is the break after the line before and `trailing`
those of empty lines since. -/
def blockLines? (literal : Bool) (indent : Nat) : Nat → List Char → List Char → List Char → Bool →
    Place → Option (List Char × List Char × List Char × Place)
  | 0, _, _, _, _, _ => none
  | fuel + 1, out, leading, trailing, afterBlank, p =>
    if p.column ≠ indent ∨ p.rest.isEmpty then some (out, leading, trailing, p)
    else do
      let blank := p.rest.head?.any isBlank
      let joint :=
        if !literal && leading == ['\n'] && !afterBlank && !blank then
          (if trailing.isEmpty then [' '] else trailing)
        else leading ++ trailing
      let line := p.rest.takeWhile fun c => !isBreak c
      let (leading, p) := (p.skip line.length).takeBreak
      let (_, trailing, p) ← blockBreaks? indent (p.rest.length + 1) 0 [] p
      blockLines? literal indent fuel (out ++ joint ++ line) leading trailing blank p

def block? (literal : Bool) (parent : Option Nat) (p : Place) : Option (List Char × Place) := do
  let (chomping, width, p) ← blockHeader? p
  let p ← p.endLine?
  let given := (width.map fun w => parent.getD 0 + w).getD 0
  let (widest, breaks, p) ← blockBreaks? given (p.rest.length + 1) 0 [] p
  let least := (parent.map (· + 1)).getD 0
  let indent := if given = 0 then max 1 (max widest least) else given
  let (out, leading, trailing, p) ←
    blockLines? literal indent (p.rest.length + 1) [] [] breaks false p
  let tail := match chomping with
    | .strip => []
    | .clip => leading
    | .keep => leading ++ trailing
  some (out ++ tail, p)

end UrlRouting.Yaml
