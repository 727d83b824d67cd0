import UrlRouting.Toml.Scalar

/-! Sections of TOML texts: what stands before the first header, and each header with what follows
it. A section is read without regard to what others define. -/

namespace UrlRouting.Toml

/-- A value as it is written. The keys of inline tables may be dotted. -/
inductive Value where
  | text (s : String)
  | scalar (v : Scalar)
  | list (items : List Value)
  | inline (assignments : List (List String × Value))
deriving Repr, Inhabited

structure Section where
  /-- The dotted key in the header, empty for what precedes the first one. -/
  path : List String
  /-- True if the header adds a table to a list. -/
  listed : Bool
  assignments : List (List String × Value)
deriving Repr, Inhabited

def skipBlanks (text : List Char) : List Char := text.dropWhile isBlank

def skipComment? : List Char → Option (List Char)
  | '#' :: rest =>
    let after := rest.dropWhile isVisible
    if after.isEmpty || (break? after).isSome then some after else none
  | text => some text

def skipSpace? : Nat → List Char → Option (List Char)
  | 0, _ => none
  | fuel + 1, text => do
    let rest ← skipComment? (skipBlanks text)
    match break? rest with
    | some rest => skipSpace? fuel rest
    | none => some rest

def endLine? (text : List Char) : Option (List Char) := do
  let rest ← skipComment? (skipBlanks text)
  if rest.isEmpty then some [] else break? rest

def isBareChar (c : Char) : Bool :=
  isDigit c || ('a' ≤ c && c ≤ 'z') || ('A' ≤ c && c ≤ 'Z') || c == '_' || c == '-'

def simpleKey? (text : List Char) : Option (String × List Char) :=
  match quoted? text with
  | some (s, rest) => some (String.ofList s, rest)
  | none =>
    let s := text.takeWhile isBareChar
    if s.isEmpty then none else some (String.ofList s, text.dropWhile isBareChar)

def key? : Nat → List Char → Option (List String × List Char)
  | 0, _ => none
  | fuel + 1, text => do
    let (first, rest) ← simpleKey? (skipBlanks text)
    match skipBlanks rest with
    | '.' :: rest => (key? fuel rest).map fun p => (first :: p.1, p.2)
    | rest => some ([first], rest)

mutual

def value? : Nat → List Char → Option (Value × List Char)
  | 0, _ => none
  | fuel + 1, text =>
    match text with
    | '[' :: rest => (items? fuel rest).map fun p => (.list p.1, p.2)
    | '\x7b' :: rest => (entries? fuel rest).map fun p => (.inline p.1, p.2)
    | '"' :: _ => (string? text).map fun p => (.text (String.ofList p.1), p.2)
    | '\'' :: _ => (string? text).map fun p => (.text (String.ofList p.1), p.2)
    | _ =>
      let (w, rest) := word text
      (wordValue? w).map fun v => (.scalar v, rest)

/-- Reads values up to a closing bracket. A comma may stand before it. -/
def items? : Nat → List Char → Option (List Value × List Char)
  | 0, _ => none
  | fuel + 1, text => do
    match ← skipSpace? (text.length + 1) text with
    | ']' :: rest => some ([], rest)
    | text => do
      let (item, rest) ← value? fuel text
      match ← skipSpace? (rest.length + 1) rest with
      | ',' :: rest => (items? fuel rest).map fun p => (item :: p.1, p.2)
      | ']' :: rest => some ([item], rest)
      | _ => none

def entries? : Nat → List Char → Option (List (List String × Value) × List Char)
  | 0, _ => none
  | fuel + 1, text => do
    match ← skipSpace? (text.length + 1) text with
    | '\x7d' :: rest => some ([], rest)
    | text => do
      let (entry, rest) ← assignment? fuel text
      match ← skipSpace? (rest.length + 1) rest with
      | ',' :: rest => (entries? fuel rest).map fun p => (entry :: p.1, p.2)
      | '\x7d' :: rest => some ([entry], rest)
      | _ => none

def assignment? : Nat → List Char → Option ((List String × Value) × List Char)
  | 0, _ => none
  | fuel + 1, text => do
    match ← key? (text.length + 1) text with
    | (key, '=' :: rest) => (value? fuel (skipBlanks rest)).map fun p => ((key, p.1), p.2)
    | _ => none

end

def header? (text : List Char) : Option (Section × List Char) :=
  let (listed, text) := match text with
    | '[' :: rest => (true, rest)
    | _ => (false, text)
  do
  let (path, rest) ← key? (text.length + 1) text
  match listed, rest with
  | true, ']' :: ']' :: rest => (endLine? rest).map (⟨path, true, []⟩, ·)
  | false, ']' :: rest => (endLine? rest).map (⟨path, false, []⟩, ·)
  | _, _ => none

def sectionsFrom? : Nat → Section → List Char → Option (List Section)
  | 0, _, _ => none
  | fuel + 1, begun, text => do
    match ← skipSpace? (text.length + 1) text with
    | [] => some [begun]
    | '[' :: rest => do
      let (next, rest) ← header? rest
      (sectionsFrom? fuel next rest).map (begun :: ·)
    | text => do
      let (entry, rest) ← assignment? (4 * text.length + 4) text
      let rest ← endLine? rest
      sectionsFrom? fuel { begun with assignments := begun.assignments ++ [entry] } rest

/-- The sections of a text. A byte order mark may precede it. -/
def sections? (text : List Char) : Option (List Section) :=
  let text := if text.head? = some '\ufeff' then text.drop 1 else text
  sectionsFrom? (text.length + 1) ⟨[], false, []⟩ text

end UrlRouting.Toml
