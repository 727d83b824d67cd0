import UrlRouting.Unicode.Query
import UrlRouting.Unicode.CaseFold
import UrlRouting.Regex.Node

/-! Options of the notation, and the escapes that a backslash begins. -/

namespace UrlRouting.Regex

structure Options where
  ignoreCase : Bool
  /-- Line anchors match at the ends of lines. -/
  multiLine : Bool
  dotAll : Bool
  swapGreed : Bool
  /-- Either line mark ends a line. -/
  anyLineMark : Bool
  unicode : Bool
  /-- Blanks and comments are left out of account. -/
  verbose : Bool
deriving DecidableEq, Repr, Inhabited

namespace Options

def standard : Options := ⟨false, false, false, false, false, true, false⟩

def switch? (o : Options) (letter : Char) (on : Bool) : Option Options :=
  match letter with
  | 'i' => some { o with ignoreCase := on }
  | 'm' => some { o with multiLine := on }
  | 's' => some { o with dotAll := on }
  | 'U' => some { o with swapGreed := on }
  | 'R' => some { o with anyLineMark := on }
  | 'u' => some { o with unicode := on }
  | 'x' => some { o with verbose := on }
  | _ => none

end Options

/-- Leaves out blanks and comments, which run from a hash sign to the end of the line. -/
def dropComments (inside : Bool) : List Char → List Char
  | [] => []
  | c :: rest =>
    if inside then dropComments (c != '\n') rest
    else if Unicode.isBlank c then dropComments false rest
    else if c = '#' then dropComments true rest
    else c :: rest

def Options.skip (o : Options) (text : List Char) : List Char :=
  if o.verbose then dropComments false text else text

inductive Escape where
  /-- A character; `byte` if it is given by two hexadecimal digits. -/
  | literal (c : Char) (byte : Bool)
  | set (s : CharSet)
  | anchor (condition : Anchor)
deriving DecidableEq, Repr

def isMeta (c : Char) : Bool := "\\.+*?()|[]\x7b\x7d^$#&-~".toList.contains c

def isEscapable (c : Char) : Bool :=
  isMeta c || (decide (c.toNat < 128) && !Unicode.isAsciiLetter c && !Unicode.isAsciiDigit c &&
    c != '<' && c != '>')

def hexValue? (c : Char) : Option Nat :=
  if Unicode.isAsciiDigit c then some (c.toNat - 48)
  else if 'a' ≤ c ∧ c ≤ 'f' then some (c.toNat - 87)
  else if 'A' ≤ c ∧ c ≤ 'F' then some (c.toNat - 55)
  else none

def scalar? (n : Nat) : Option Char := if n.isValidChar then some (Char.ofNat n) else none

def hexDigits (o : Options) (acc : Nat) : Nat → List Char → Option (Nat × List Char)
  | 0, text => some (acc, text)
  | count + 1, c :: rest => do
    let v ← hexValue? c
    hexDigits o (acc * 16 + v) count (o.skip rest)
  | _ + 1, [] => none

def bracedHex (o : Options) (acc : Nat) (some? : Bool) : Nat → List Char → Option (Nat × List Char)
  | fuel + 1, c :: rest =>
    if c = '\x7d' then if some? then some (acc, o.skip rest) else none
    else do
      let v ← hexValue? c
      if acc < 0x1000000 then bracedHex o (acc * 16 + v) true fuel (o.skip rest) else none
  | _, _ => none

def hexEscape (o : Options) (digits : Nat) (text : List Char) : Option (Escape × List Char) :=
  match o.skip text with
  | [] => none
  | '\x7b' :: rest => do
    let (n, rest) ← bracedHex o 0 false text.length (o.skip rest)
    let c ← scalar? n
    some (.literal c false, rest)
  | rest => do
    let (n, rest) ← hexDigits o 0 digits rest
    let c ← scalar? n
    some (.literal c (digits == 2), rest)

def splitAtFirst (sep : List Char) : List Char → Option (List Char × List Char)
  | [] => none
  | c :: rest =>
    if sep.isPrefixOf (c :: rest) then some ([], (c :: rest).drop sep.length)
    else (splitAtFirst sep rest).map fun p => (c :: p.1, p.2)

def bracedName (o : Options) : Nat → List Char → Option (List Char × List Char)
  | fuel + 1, c :: rest =>
    if c = '\x7d' then some ([], rest)
    else (bracedName o fuel (o.skip rest)).map fun p => (c :: p.1, p.2)
  | _, _ => none

/-- The set of a property between braces: `name`, `name=value`, `name:value` or
`name!=value`, of which the last is true in the second part of the answer. -/
def namedSet? (name : List Char) : Option (CharSet × Bool) :=
  match splitAtFirst ['!', '='] name with
  | some (property, value) => (Unicode.classByValue property value).map (·, true)
  | none =>
    match splitAtFirst [':'] name with
    | some (property, value) => (Unicode.classByValue property value).map (·, false)
    | none =>
      match splitAtFirst ['='] name with
      | some (property, value) => (Unicode.classByValue property value).map (·, false)
      | none => (Unicode.classByName name).map (·, false)

def Options.fold (o : Options) (s : CharSet) : CharSet :=
  if o.ignoreCase then (if o.unicode then Unicode.foldCase s else Unicode.foldAsciiCase s) else s

def propertyEscape (o : Options) (negated : Bool) (text : List Char) :
    Option (Escape × List Char) := do
  let (set, other, rest) ← (match o.skip text with
    | [] => none
    | '\x7b' :: rest => do
      let (name, rest) ← bracedName o text.length (o.skip rest)
      let (set, other) ← namedSet? name
      some (set, other, rest)
    | '\\' :: _ => none
    | c :: rest => do
      let set ← Unicode.classByName [c]
      some (set, false, o.skip rest))
  if o.unicode then
    let set := o.fold set
    some (.set (if negated != other then set.compl else set), rest)
  else none

def asciiDigitSet : CharSet := ⟨[(48, 57)]⟩

def asciiBlankSet : CharSet := ⟨[(9, 13), (32, 32)]⟩

def asciiWordSet : CharSet := ⟨[(48, 57), (65, 90), (95, 95), (97, 122)]⟩

/-- The class of `d`, `s` or `w`. Outside the Unicode option a negated class would hold parts of
characters, which is refused. -/
def perlSet? (o : Options) (letter : Char) : Option CharSet :=
  let pick (wide narrow : CharSet) : Option CharSet := some (if o.unicode then wide else narrow)
  let negate (wide : CharSet) : Option CharSet := if o.unicode then some wide.compl else none
  match letter with
  | 'd' => pick Unicode.decimalDigits asciiDigitSet
  | 's' => pick Unicode.blanks asciiBlankSet
  | 'w' => pick Unicode.wordSet asciiWordSet
  | 'D' => negate Unicode.decimalDigits
  | 'S' => negate Unicode.blanks
  | 'W' => negate Unicode.wordSet
  | _ => none

def edgeName (o : Options) : Nat → List Char → Option (List Char × List Char)
  | fuel + 1, c :: rest =>
    if Unicode.isAsciiLetter c || c == '-' then
      (edgeName o fuel (o.skip rest)).map fun p => (c :: p.1, p.2)
    else if c = '\x7d' then some ([], rest)
    else none
  | _, _ => none

/-- A word edge: plain, or one of four named between braces. A brace whose content does not begin
like a name is left for a counted repetition. -/
def edgeEscape (o : Options) (text : List Char) : Option (Escape × List Char) :=
  let plain := some (Escape.anchor (.word .edge (!o.unicode)), text)
  match text with
  | '\x7b' :: rest =>
    match o.skip rest with
    | [] => none
    | c :: more =>
      if Unicode.isAsciiLetter c || c == '-' then do
        let (name, rest) ← edgeName o (text.length) (c :: more)
        let kind ← (match String.ofList name with
          | "start" => some WordEdge.opening
          | "end" => some WordEdge.closing
          | "start-half" => some WordEdge.halfOpening
          | "end-half" => some WordEdge.halfClosing
          | _ => none)
        some (.anchor (.word kind (!o.unicode)), rest)
      else plain
  | _ => plain

def escape? (o : Options) : List Char → Option (Escape × List Char)
  | [] => none
  | c :: rest =>
    let char (d : Char) : Option (Escape × List Char) := some (.literal d false, rest)
    let anchor (a : Anchor) : Option (Escape × List Char) := some (.anchor a, rest)
    match c with
    | 'x' => hexEscape o 2 rest
    | 'u' => hexEscape o 4 rest
    | 'U' => hexEscape o 8 rest
    | 'p' => propertyEscape o false rest
    | 'P' => propertyEscape o true rest
    | 'a' => char '\x07'
    | 'f' => char '\x0c'
    | 't' => char '\t'
    | 'n' => char '\n'
    | 'r' => char '\r'
    | 'v' => char '\x0b'
    | 'A' => anchor .textStart
    | 'z' => anchor .textEnd
    | 'b' => edgeEscape o rest
    | 'B' => anchor (.word .inside (!o.unicode))
    | '<' => anchor (.word .opening (!o.unicode))
    | '>' => anchor (.word .closing (!o.unicode))
    | _ =>
      match perlSet? o c with
      | some set => some (.set set, rest)
      | none => if isEscapable c then char c else none

end UrlRouting.Regex
