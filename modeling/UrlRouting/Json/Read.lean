import UrlRouting.Document.Basic
import UrlRouting.Percent

/-! Reading of JSON texts. -/

namespace UrlRouting.Json

def isSpace (c : Char) : Bool := c == ' ' || c == '\n' || c == '\t' || c == '\r'

def skip (text : List Char) : List Char := text.dropWhile isSpace

def hex4? (a b c d : Char) : Option Nat := do
  let a ← Percent.hexValue? a
  let b ← Percent.hexValue? b
  let c ← Percent.hexValue? c
  let d ← Percent.hexValue? d
  some (a * 4096 + b * 256 + c * 16 + d)

def isLeading (n : Nat) : Bool := decide (0xD800 ≤ n) && decide (n < 0xDC00)

def isTrailing (n : Nat) : Bool := decide (0xDC00 ≤ n) && decide (n < 0xE000)

def shortEscape? (c : Char) : Option Char :=
  match c with
  | '"' => some '"'
  | '\\' => some '\\'
  | '/' => some '/'
  | 'b' => some '\x08'
  | 'f' => some '\x0c'
  | 'n' => some '\n'
  | 'r' => some '\r'
  | 't' => some '\t'
  | _ => none

/-- Reads the rest of a string after its opening quote. Halves of a character may only stand in
pairs, and control characters only as escapes. -/
def string? : List Char → Option (List Char × List Char)
  | [] => none
  | '"' :: rest => some ([], rest)
  | '\\' :: 'u' :: a :: b :: c :: d :: rest =>
    match hex4? a b c d with
    | none => none
    | some n =>
      if isTrailing n then none
      else if isLeading n then
        match rest with
        | '\\' :: 'u' :: a :: b :: c :: d :: rest =>
          match hex4? a b c d with
          | none => none
          | some m =>
            if isTrailing m then
              (string? rest).map fun p =>
                (Char.ofNat (0x10000 + (n - 0xD800) * 1024 + (m - 0xDC00)) :: p.1, p.2)
            else none
        | _ => none
      else (string? rest).map fun p => (Char.ofNat n :: p.1, p.2)
  | '\\' :: e :: rest =>
    match shortEscape? e with
    | none => none
    | some c => (string? rest).map fun p => (c :: p.1, p.2)
  | c :: rest =>
    if c.toNat < 32 || c == '\\' then none else (string? rest).map fun p => (c :: p.1, p.2)

def isDigit (c : Char) : Bool := '0' ≤ c && c ≤ '9'

def digits (text : List Char) : List Char × List Char :=
  (text.takeWhile isDigit, text.dropWhile isDigit)

def natural (ds : List Char) : Nat := ds.foldl (fun n c => n * 10 + (c.toNat - 48)) 0

def whole? (text : List Char) : Option (List Char × List Char) :=
  match digits text with
  | ([], _) => none
  | (['0'], rest) => some (['0'], rest)
  | ('0' :: _, _) => none
  | (ds, rest) => some (ds, rest)

/-- A fraction, if one begins here: the outer option is none for a point without digits. -/
def fraction? (text : List Char) : Option (Bool × List Char) :=
  match text with
  | '.' :: rest =>
    match digits rest with
    | ([], _) => none
    | (_, rest) => some (true, rest)
  | _ => some (false, text)

def exponent? (text : List Char) : Option (Bool × List Char) :=
  let after (rest : List Char) : Option (Bool × List Char) :=
    let unsigned := match rest with
      | '+' :: more => more
      | '-' :: more => more
      | _ => rest
    match digits unsigned with
    | ([], _) => none
    | (_, rest) => some (true, rest)
  match text with
  | 'e' :: rest => after rest
  | 'E' :: rest => after rest
  | _ => some (false, text)

/-- A number. Fractions, powers and a negative zero are not integers. -/
def number? (text : List Char) : Option (Scalar × List Char) := do
  let (negative, rest) := match text with
    | '-' :: rest => (true, rest)
    | _ => (false, text)
  let (ds, rest) ← whole? rest
  let (fractional, rest) ← fraction? rest
  let (scaled, rest) ← exponent? rest
  let n := natural ds
  if fractional || scaled || (negative && n == 0) then some (.foreign, rest)
  else some (Document.intScalar (if negative then -(n : Int) else n), rest)

def word? (w text : List Char) : Option (List Char) :=
  if w.isPrefixOf text then some (text.drop w.length) else none

mutual

/-- Reads a value; `fuel` bounds the number of values and entries. -/
def value? : Nat → List Char → Option (Document × List Char)
  | 0, _ => none
  | fuel + 1, text =>
    match skip text with
    | '"' :: rest => (string? rest).map fun p => (.ofText (String.ofList p.1), p.2)
    | '[' :: rest =>
      match skip rest with
      | ']' :: rest => some (.list [], rest)
      | rest => (items? fuel rest).map fun p => (.list p.1, p.2)
    | '\x7b' :: rest =>
      match skip rest with
      | '\x7d' :: rest => some (.table [], rest)
      | rest => (entries? fuel rest).map fun p => (.table p.1, p.2)
    | 'n' :: rest => (word? "ull".toList rest).map (.ofScalar .null, ·)
    | 't' :: rest => (word? "rue".toList rest).map (.ofScalar (.bool true), ·)
    | 'f' :: rest => (word? "alse".toList rest).map (.ofScalar (.bool false), ·)
    | text => (number? text).map fun p => (.ofScalar p.1, p.2)

def items? : Nat → List Char → Option (List Document × List Char)
  | 0, _ => none
  | fuel + 1, text => do
    let (item, rest) ← value? fuel text
    match skip rest with
    | ',' :: rest => (items? fuel rest).map fun p => (item :: p.1, p.2)
    | ']' :: rest => some ([item], rest)
    | _ => none

def entries? : Nat → List Char → Option (List (String × Document) × List Char)
  | 0, _ => none
  | fuel + 1, text =>
    match skip text with
    | '"' :: rest => do
      let (name, rest) ← string? rest
      match skip rest with
      | ':' :: rest => do
        let (item, rest) ← value? fuel rest
        let entry := (String.ofList name, item)
        match skip rest with
        | ',' :: rest => (entries? fuel rest).map fun p => (entry :: p.1, p.2)
        | '\x7d' :: rest => some ([entry], rest)
        | _ => none
      | _ => none
    | _ => none

end

def read? (text : String) : Option Document := do
  let (d, rest) ← value? (2 * text.toList.length + 2) text.toList
  if (skip rest).isEmpty then some d else none

end UrlRouting.Json
