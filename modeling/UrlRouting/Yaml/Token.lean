import UrlRouting.Yaml.ScalarText

/-! Tokens of YAML texts. Indentation becomes tokens that open and close blocks. A key is known
only by the colon that follows it, so its token is put before those already read. -/

namespace UrlRouting.Yaml

inductive Token where
  | version (major minor : Nat)
  | tagHandle (handle base : String)
  | documentStart
  | documentEnd
  | blockSequence
  | blockMapping
  | blockEnd
  | openSequence
  | closeSequence
  | openMapping
  | closeMapping
  | comma
  | entry
  | key
  | value
  | reference (name : String)
  | anchor (name : String)
  | tag (handle suffix : String)
  | scalar (text : String) (plain : Bool)
deriving DecidableEq, Repr, Inhabited

/-- A place where a key may have begun: the number of tokens before it. A `needed` one must turn out
to be a key. -/
structure KeyMark where
  possible : Bool
  needed : Bool
  token : Nat
  index : Nat
  line : Nat
  column : Nat
deriving DecidableEq, Repr, Inhabited

def KeyMark.none : KeyMark := ⟨false, false, 0, 0, 0, 0⟩

/-- The state between two tokens. `indents` are the columns of the open blocks, innermost first;
`keys` has a mark for the block level and one for each open bracket, innermost first. -/
structure Scanner where
  place : Place
  indents : List Nat
  keys : List KeyMark
  keyAllowed : Bool
  tokens : Array Token

namespace Scanner

def start (text : List Char) : Scanner := ⟨Place.start text, [], [KeyMark.none], true, #[]⟩

def isFlow (s : Scanner) : Bool := decide (1 < s.keys.length)

def indent? (s : Scanner) : Option Nat := s.indents.head?

def push (s : Scanner) (t : Token) : Scanner := { s with tokens := s.tokens.push t }

def insertToken (tokens : Array Token) (i : Nat) (t : Token) : Array Token :=
  (tokens.toList.take i ++ t :: tokens.toList.drop i).toArray

/-- Gives up key marks that are no longer on the line, or too far back. -/
def dropStale? (s : Scanner) : Option Scanner := do
  let keys ← s.keys.mapM fun k =>
    if k.possible && (decide (k.line < s.place.line) || decide (k.index + 1024 < s.place.index)) then
      if k.needed then none else some { k with possible := false }
    else some k
  some { s with keys := keys }

def dropKey? (s : Scanner) : Option Scanner :=
  match s.keys with
  | k :: keys =>
    if k.possible && k.needed then none
    else some { s with keys := { k with possible := false } :: keys }
  | [] => some s

def noteKey? (s : Scanner) : Option Scanner :=
  if s.keyAllowed then do
    let needed := !s.isFlow && s.indent? == some s.place.column
    let s ← s.dropKey?
    some { s with keys := ⟨true, needed, s.tokens.size, s.place.index, s.place.line,
      s.place.column⟩ :: s.keys.drop 1 }
  else some s

def openBlock (s : Scanner) (column : Nat) (t : Token) (number : Option Nat) : Scanner :=
  if s.isFlow || s.indent?.any (fun i => decide (column ≤ i)) then s
  else
    let tokens := match number with
      | some i => insertToken s.tokens i t
      | none => s.tokens.push t
    { s with indents := column :: s.indents, tokens := tokens }

def closeBlocks (least : Nat) : List Nat → Array Token → List Nat × Array Token
  | [], tokens => ([], tokens)
  | i :: indents, tokens =>
    if least ≤ i then closeBlocks least indents (tokens.push .blockEnd) else (i :: indents, tokens)

def closeFrom (s : Scanner) (least : Nat) : Scanner :=
  if s.isFlow then s
  else
    let (indents, tokens) := closeBlocks least s.indents s.tokens
    { s with indents := indents, tokens := tokens }

/-- Past blanks, comments and line breaks to the next token. A line break outside brackets lets a
key begin; a tab may not stand where one can. -/
def skipToToken : Nat → Scanner → Scanner
  | 0, s => s
  | fuel + 1, s =>
    let p := if s.place.index = 0 ∧ s.place.rest.head? = some '\ufeff' then s.place.next else s.place
    let tabs := s.isFlow || !s.keyAllowed
    let p := (p.skipWhile fun c => c == ' ' || (tabs && c == '\t')).skipComment
    if p.rest.head?.any isBreak then
      skipToToken fuel { s with place := p.takeBreak.2, keyAllowed := s.keyAllowed || !s.isFlow }
    else { s with place := p }

def endBlocks? (s : Scanner) : Option Scanner := do
  let s ← (s.closeFrom 0).dropKey?
  some { s with keyAllowed := false }

def isUriChar (verbatim : Bool) (c : Char) : Bool :=
  isWord c || ";/?:@&=+$.%!~*'()".toList.contains c || (verbatim && ",[]".toList.contains c)

def octet? : List Char → Option (Nat × List Char)
  | '%' :: a :: b :: rest => do
    let a ← Percent.hexValue? a
    let b ← Percent.hexValue? b
    some (a * 16 + b, rest)
  | _ => none

def escapedChar? (text : List Char) : Option (Char × Nat) := do
  let (first, rest) ← octet? text
  let width := if first < 0x80 then 1 else if first / 32 = 6 then 2 else if first / 16 = 14 then 3
    else if first / 8 = 30 then 4 else 0
  if width = 0 then none
  let (octets, _) ← (List.range (width - 1)).foldlM (fun (acc : List Nat × List Char) _ => do
    let (o, rest) ← octet? acc.2
    if o / 64 = 2 then some (acc.1 ++ [o], rest) else none) ([first], rest)
  let chars ← Percent.utf8? (octets.map UInt8.ofNat)
  let c ← chars.head?
  some (c, 3 * width)

def uri? (verbatim : Bool) : Nat → Nat → List Char → Place → Option (List Char × Place)
  | 0, _, _, _ => none
  | fuel + 1, given, out, p =>
    match p.rest with
    | '%' :: _ => do
      let (c, width) ← escapedChar? p.rest
      uri? verbatim fuel (given + 1) (c :: out) (p.skip width)
    | c :: _ =>
      if isUriChar verbatim c then uri? verbatim fuel (given + 1) (c :: out) p.next
      else if given = 0 then none else some (out.reverse, p)
    | [] => if given = 0 then none else some (out.reverse, p)

def handle? (p : Place) : Option (List Char × Place) :=
  match p.rest with
  | '!' :: rest =>
    let word := rest.takeWhile isWord
    let p := p.skip (word.length + 1)
    match p.rest with
    | '!' :: _ => some ('!' :: word ++ ['!'], p.next)
    | _ => some ('!' :: word, p)
  | _ => none

def tag? (s : Scanner) : Option (Token × Place) := do
  let p := s.place
  let fuel := p.rest.length + 1
  let (token, p) ← (match p.rest with
    | '!' :: '<' :: _ => do
      let (suffix, p) ← uri? true fuel 0 [] (p.skip 2)
      if p.rest.head? = some '>' then some (Token.tag "" (String.ofList suffix), p.next) else none
    | _ => do
      let (handle, p) ← handle? p
      if 1 < handle.length ∧ handle.getLast? = some '!' then do
        let (suffix, p) ← uri? false fuel 0 [] p
        some (Token.tag (String.ofList handle) (String.ofList suffix), p)
      else do
        let (suffix, p) ← uri? false fuel handle.length (handle.drop 1).reverse p
        if suffix.isEmpty then some (Token.tag "" "!", p)
        else some (Token.tag "!" (String.ofList suffix), p))
  if (s.isFlow && p.rest.head? == some ',') || endsWord p.rest then some (token, p) else none

def versionNumber? (p : Place) : Option (Nat × Place) :=
  let digits := p.rest.takeWhile isDigit
  if digits.isEmpty ∨ 9 < digits.length then none
  else some (digits.foldl (fun n c => n * 10 + (c.toNat - 48)) 0, p.skip digits.length)

def directive? (p : Place) : Option (Token × Place) := do
  let name := p.rest.takeWhile isWord
  let p := p.skip name.length
  if !endsWord p.rest then none
  let p := p.skipBlanks
  let (token, p) ← (match String.ofList name with
    | "YAML" => do
      let (major, p) ← versionNumber? p
      if p.rest.head? ≠ some '.' then none
      let (minor, p) ← versionNumber? p.next
      some (Token.version major minor, p)
    | "TAG" => do
      let (handle, p) ← handle? p
      if 1 < handle.length ∧ handle.getLast? ≠ some '!' then none
      if !p.rest.head?.any isBlank then none
      let p := p.skipBlanks
      let (base, p) ← uri? true (p.rest.length + 1) 0 [] p
      if !endsWord p.rest then none
      some (Token.tagHandle (String.ofList handle) (String.ofList base), p)
    | _ => none)
  let p ← p.endLine?
  some (token, p)

def anchorName? (p : Place) : Option (String × Place) :=
  let name := p.rest.takeWhile isWord
  let p := p.skip name.length
  if !name.isEmpty && (endsWord p.rest || p.rest.head?.any "?:,]\x7d%@\x60".toList.contains) then
    some (String.ofList name, p)
  else none

def mark (s : Scanner) (t : Token) (keyAllowed : Bool) : Scanner :=
  { (s.push t) with place := s.place.next, keyAllowed := keyAllowed }

def openBracket? (s : Scanner) (t : Token) : Option Scanner := do
  let s ← s.noteKey?
  some ({ s with keys := KeyMark.none :: s.keys }.mark t true)

def closeBracket? (s : Scanner) (t : Token) : Option Scanner := do
  let s ← s.dropKey?
  let keys := if s.isFlow then s.keys.drop 1 else s.keys
  some ({ s with keys := keys }.mark t false)

def entry? (s : Scanner) : Option Scanner := do
  if !s.isFlow && !s.keyAllowed then none
  let s ← (s.openBlock s.place.column .blockSequence none).dropKey?
  some (s.mark .entry true)

def key? (s : Scanner) : Option Scanner := do
  if !s.isFlow && !s.keyAllowed then none
  let s ← (s.openBlock s.place.column .blockMapping none).dropKey?
  some (s.mark .key (!s.isFlow))

def value? (s : Scanner) : Option Scanner :=
  match s.keys with
  | k :: keys =>
    if k.possible then
      let s := { s with tokens := insertToken s.tokens k.token .key }
      let s := s.openBlock k.column .blockMapping (some k.token)
      some ({ s with keys := { k with possible := false } :: keys }.mark .value false)
    else if !s.isFlow && !s.keyAllowed then none
    else some ((s.openBlock s.place.column .blockMapping none).mark .value (!s.isFlow))
  | [] => none

def atom? (s : Scanner) (read : Scanner → Option (Token × Bool × Place)) : Option Scanner := do
  let s ← s.noteKey?
  let s := { s with keyAllowed := false }
  let (t, broken, p) ← read s
  some { (s.push t) with place := p, keyAllowed := broken }

def block? (s : Scanner) (literal : Bool) : Option Scanner := do
  let s ← s.dropKey?
  let (text, p) ← Yaml.block? literal s.indent? s.place.next
  some { (s.push (.scalar (String.ofList text) false)) with place := p, keyAllowed := true }

def quoted? (single : Bool) (s : Scanner) : Option (Token × Bool × Place) := do
  let (text, p) ← Yaml.quoted? single (s.place.rest.length + 1) [] s.place.next
  some (.scalar (String.ofList text) false, false, p)

def plain? (s : Scanner) : Option (Token × Bool × Place) := do
  let limit := (s.indent?.map (· + 1)).getD 0
  let (text, broken, p) ←
    Yaml.plain? s.isFlow limit (s.place.rest.length + 1) [] Gap.none s.place
  some (.scalar (String.ofList text) true, broken, p)

/-- A plain scalar may begin with a character that is no mark, and with a hyphen, and outside
brackets with a question mark or a colon, that no blank follows. -/
def startsPlain (flow : Bool) (c : Char) (rest : List Char) : Bool :=
  (!isBlank c && !"-?:,[]\x7b\x7d#&*!|>'\"%@\x60".toList.contains c) ||
    (c == '-' && !rest.head?.any isBlank) ||
    (!flow && (c == '?' || c == ':') && !endsWord rest)

/-- Reads the token at the place reached; none in the second part of the answer at the end. -/
def fetch? (s : Scanner) (c : Char) (rest : List Char) : Option Scanner :=
  let flow := s.isFlow
  if s.place.column = 0 ∧ c = '%' then do
    let s ← s.endBlocks?
    let (t, p) ← directive? s.place.next
    some { (s.push t) with place := p }
  else if s.place.atDocumentMark then do
    let s ← s.endBlocks?
    some { (s.push (if c = '-' then .documentStart else .documentEnd)) with
      place := s.place.skip 3 }
  else
    match c with
    | '[' => s.openBracket? .openSequence
    | '\x7b' => s.openBracket? .openMapping
    | ']' => s.closeBracket? .closeSequence
    | '\x7d' => s.closeBracket? .closeMapping
    | ',' => do
      let s ← s.dropKey?
      some (s.mark .comma true)
    | '*' => s.atom? fun s => (anchorName? s.place.next).map fun r => (.reference r.1, false, r.2)
    | '&' => s.atom? fun s => (anchorName? s.place.next).map fun r => (.anchor r.1, false, r.2)
    | '!' => s.atom? fun s => s.tag?.map fun r => (r.1, false, r.2)
    | '\'' => s.atom? (quoted? true)
    | '"' => s.atom? (quoted? false)
    | _ =>
      if c = '-' ∧ endsWord rest then s.entry?
      else if c = '?' ∧ (flow ∨ endsWord rest) then s.key?
      else if c = ':' ∧ (flow ∨ endsWord rest) then s.value?
      else if c = '|' ∧ !flow then s.block? true
      else if c = '>' ∧ !flow then s.block? false
      else if startsPlain flow c rest then s.atom? plain?
      else none

def all? : Nat → Scanner → Option (Array Token)
  | 0, _ => none
  | fuel + 1, s => do
    let s ← (skipToToken (s.place.rest.length + 1) s).dropStale?
    match s.place.rest with
    | [] =>
      let s ← (s.closeFrom 0).dropKey?
      some s.tokens
    | c :: rest =>
      let s := if s.isFlow then s else s.closeFrom (s.place.column + 1)
      let s ← s.fetch? c rest
      all? fuel s

end Scanner

def tokens? (text : List Char) : Option (Array Token) :=
  let text := if text.head? = some '\ufeff' then text.drop 1 else text
  if text.all isAllowed then Scanner.all? (text.length + 1) (Scanner.start text) else none

end UrlRouting.Yaml
