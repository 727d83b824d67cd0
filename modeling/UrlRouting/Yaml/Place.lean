import UrlRouting.Percent

/-! Places in a YAML text, which know their line and column, and the kinds of characters that its
rules speak of. -/

namespace UrlRouting.Yaml

structure Place where
  rest : List Char
  index : Nat
  line : Nat
  column : Nat
deriving DecidableEq, Repr, Inhabited

def isAllowed (c : Char) : Bool :=
  let n := c.toNat
  n == 9 || n == 10 || n == 13 || (decide (32 ≤ n) && decide (n ≤ 126)) || n == 0x85 ||
    (decide (0xA0 ≤ n) && decide (n ≤ 0xD7FF)) || (decide (0xE000 ≤ n) && decide (n ≤ 0xFFFD)) ||
    decide (0x10000 ≤ n)

def isBreak (c : Char) : Bool :=
  c == '\r' || c == '\n' || c == '\x85' || c == '\u2028' || c == '\u2029'

def isBlank (c : Char) : Bool := c == ' ' || c == '\t'

def isWord (c : Char) : Bool :=
  ('0' ≤ c && c ≤ '9') || ('A' ≤ c && c ≤ 'Z') || ('a' ≤ c && c ≤ 'z') || c == '_' || c == '-'

def isDigit (c : Char) : Bool := '0' ≤ c && c ≤ '9'

def endsWord : List Char → Bool
  | [] => true
  | c :: _ => isBlank c || isBreak c

def endsLine : List Char → Bool
  | [] => true
  | c :: _ => isBreak c

namespace Place

def start (text : List Char) : Place := ⟨text, 0, 0, 0⟩

def next (p : Place) : Place := ⟨p.rest.drop 1, p.index + 1, p.line, p.column + 1⟩

def skip (p : Place) (n : Nat) : Place := ⟨p.rest.drop n, p.index + n, p.line, p.column + n⟩

/-- Past a line break, if one is here, with the text it stands for: the separators of lines and
paragraphs stand for themselves, all others for a line feed. -/
def takeBreak (p : Place) : List Char × Place :=
  match p.rest with
  | '\r' :: '\n' :: rest => (['\n'], ⟨rest, p.index + 2, p.line + 1, 0⟩)
  | c :: rest =>
    let past : Place := ⟨rest, p.index + 1, p.line + 1, 0⟩
    if c = '\u2028' ∨ c = '\u2029' then ([c], past)
    else if isBreak c then (['\n'], past)
    else ([], p)
  | [] => ([], p)

def skipWhile (p : Place) (test : Char → Bool) : Place :=
  p.skip (p.rest.takeWhile test).length

def skipBlanks (p : Place) : Place := p.skipWhile isBlank

def skipComment (p : Place) : Place :=
  match p.rest with
  | '#' :: _ => p.skipWhile fun c => !isBreak c
  | _ => p

def endLine? (p : Place) : Option Place :=
  let p := p.skipBlanks.skipComment
  if endsLine p.rest then some p.takeBreak.2 else none

def atDocumentMark (p : Place) : Bool :=
  p.column == 0 &&
    match p.rest with
    | '-' :: '-' :: '-' :: rest => endsWord rest
    | '.' :: '.' :: '.' :: rest => endsWord rest
    | _ => false

end Place

end UrlRouting.Yaml
