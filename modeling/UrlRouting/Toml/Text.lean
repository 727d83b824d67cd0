import UrlRouting.Percent

/-! Strings of TOML texts: basic ones with escapes and literal ones without, on one line or on
several. A string on several lines leaves out a line break that follows its opening quotes. -/

namespace UrlRouting.Toml

def isDigit (c : Char) : Bool := '0' ≤ c && c ≤ '9'

def isBlank (c : Char) : Bool := c == ' ' || c == '\t'

/-- Tabs are the only control characters of strings and comments. -/
def isVisible (c : Char) : Bool := c == '\t' || (decide (32 ≤ c.toNat) && c != '\x7f')

def break? : List Char → Option (List Char)
  | '\n' :: rest => some rest
  | '\r' :: '\n' :: rest => some rest
  | _ => none

def shortEscape? (c : Char) : Option Char :=
  match c with
  | 'b' => some '\x08'
  | 't' => some '\t'
  | 'n' => some '\n'
  | 'f' => some '\x0c'
  | 'r' => some '\r'
  | 'e' => some '\x1b'
  | '"' => some '"'
  | '\\' => some '\\'
  | _ => none

def longEscape? (c : Char) : Option Nat :=
  match c with
  | 'x' => some 2
  | 'u' => some 4
  | 'U' => some 8
  | _ => none

def escape? : List Char → Option (Char × List Char)
  | [] => none
  | c :: rest =>
    match shortEscape? c with
    | some d => some (d, rest)
    | none => do
      let count ← longEscape? c
      let digits := rest.take count
      if digits.length < count then none
      let n ← digits.foldlM (fun n d => (Percent.hexValue? d).map fun v => n * 16 + v) 0
      if n.isValidChar then some (Char.ofNat n, rest.drop count) else none

def skipLines : List Char → List Char
  | [] => []
  | '\r' :: '\n' :: rest => skipLines rest
  | c :: rest => if isBlank c || c == '\n' then skipLines rest else c :: rest

/-- What follows a backslash that ends its line, without the blanks and empty lines there. -/
def foldedLines? (text : List Char) : Option (List Char) :=
  (break? (text.dropWhile isBlank)).map skipLines

def line? (quote : Char) : Nat → List Char → Option (List Char × List Char)
  | 0, _ => none
  | _ + 1, [] => none
  | fuel + 1, c :: rest =>
    if c = quote then some ([], rest)
    else if c = '\\' ∧ quote = '"' then do
      let (d, rest) ← escape? rest
      (line? quote fuel rest).map fun p => (d :: p.1, p.2)
    else if isVisible c then (line? quote fuel rest).map fun p => (c :: p.1, p.2)
    else none

/-- Reads the rest of a string on several lines. It ends with three quotes, right before which one
or two more may stand. -/
def lines? (quote : Char) : Nat → List Char → Option (List Char × List Char)
  | 0, _ => none
  | _ + 1, [] => none
  | fuel + 1, c :: rest =>
    if c = quote then
      let run := (c :: rest).takeWhile (· == quote)
      if 3 ≤ run.length then
        let kept := min 2 (run.length - 3)
        some (List.replicate kept quote, (c :: rest).drop (kept + 3))
      else (lines? quote fuel rest).map fun p => (c :: p.1, p.2)
    else if c = '\\' ∧ quote = '"' then
      match foldedLines? rest with
      | some rest => lines? quote fuel rest
      | none => do
        let (d, rest) ← escape? rest
        (lines? quote fuel rest).map fun p => (d :: p.1, p.2)
    else if isVisible c || c == '\n' || (c == '\r' && rest.head? == some '\n') then
      (lines? quote fuel rest).map fun p => (c :: p.1, p.2)
    else none

def quoted? : List Char → Option (List Char × List Char)
  | '"' :: rest => line? '"' (rest.length + 1) rest
  | '\'' :: rest => line? '\'' (rest.length + 1) rest
  | _ => none

def string? (text : List Char) : Option (List Char × List Char) :=
  let several (quote : Char) (rest : List Char) : Option (List Char × List Char) :=
    let rest := (break? rest).getD rest
    lines? quote (rest.length + 1) rest
  match text with
  | '"' :: '"' :: '"' :: rest => several '"' rest
  | '\'' :: '\'' :: '\'' :: rest => several '\'' rest
  | _ => quoted? text

end UrlRouting.Toml
