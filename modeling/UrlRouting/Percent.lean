import UrlRouting.Text.Slash

/-! Percent-encoding of values put into paths and queries, and decoding of paths to be matched.

A path is decoded in two steps. The first resolves every escape but those of the slash and of the
percent sign, so that the pieces between slashes stay what they were; matching works on this form.
The second resolves the two that are left, in the texts that matching has cut out. -/

namespace UrlRouting.Percent

def isKept (c : Char) : Bool :=
  ('0' ≤ c && c ≤ '9') || ('A' ≤ c && c ≤ 'Z') || ('a' ≤ c && c ≤ 'z') ||
    c == '*' || c == '-' || c == '.' || c == '_'

def hexDigit (n : Nat) : Char := Char.ofNat (if n < 10 then 48 + n else 55 + n)

def hexValue? (c : Char) : Option Nat :=
  if '0' ≤ c ∧ c ≤ '9' then some (c.toNat - 48)
  else if 'A' ≤ c ∧ c ≤ 'F' then some (c.toNat - 55)
  else if 'a' ≤ c ∧ c ≤ 'f' then some (c.toNat - 87)
  else none

def escapeByte (b : UInt8) : List Char :=
  ['%', hexDigit (b.toNat / 16), hexDigit (b.toNat % 16)]

def encodeChar (c : Char) : List Char :=
  if isKept c then [c]
  else if c = ' ' then ['+']
  else (String.utf8EncodeChar c).flatMap escapeByte

def encodePiece (s : List Char) : List Char := s.flatMap encodeChar

def encodeValue (wildcard : Bool) (s : List Char) : List Char :=
  if wildcard then Slash.join ((Slash.pieces s).map encodePiece) else encodePiece s

inductive Atom where
  | char (c : Char)
  | byte (b : UInt8)
  | slash
  | percent
deriving DecidableEq, Repr

def escapeAtom? (a b : Char) : Option Atom :=
  if a = '2' ∧ (b = 'F' ∨ b = 'f') then some .slash
  else if a = '2' ∧ b = '5' then some .percent
  else do
    let high ← hexValue? a
    let low ← hexValue? b
    some (.byte (UInt8.ofNat (high * 16 + low)))

/-- Reads a text from left to right. A percent sign that begins no escape stands for itself. -/
def atoms : List Char → List Atom
  | [] => []
  | '%' :: a :: b :: rest =>
    match escapeAtom? a b with
    | some atom => atom :: atoms rest
    | none => .char '%' :: atoms (a :: b :: rest)
  | c :: rest => .char c :: atoms rest

def utf8? (bytes : List UInt8) : Option (List Char) :=
  (ByteArray.mk bytes.toArray).utf8Decode?.map Array.toList

/-- Decodes each stretch between reserved escapes and writes these in one spelling; `pending` are
the bytes of the stretch under way. -/
def resolve? (pending : List UInt8) : List Atom → Option (List Char)
  | [] => utf8? pending
  | .char c :: rest => resolve? (pending ++ String.utf8EncodeChar c) rest
  | .byte b :: rest => resolve? (pending ++ [b]) rest
  | .slash :: rest => do
    let piece ← utf8? pending
    let more ← resolve? [] rest
    some (piece ++ '%' :: '2' :: 'F' :: more)
  | .percent :: rest => do
    let piece ← utf8? pending
    let more ← resolve? [] rest
    some (piece ++ '%' :: '2' :: '5' :: more)

def plusAsBlank (s : List Char) : List Char := s.map fun c => if c = '+' then ' ' else c

/-- The form of a path that is matched: a plus sign is a blank, and escapes are resolved except
those of the slash and of the percent sign. A text that does not decode is taken as it stands. -/
def unescape (raw : List Char) : List Char :=
  (resolve? [] (atoms (plusAsBlank raw))).getD raw

def restore : List Char → List Char
  | [] => []
  | '%' :: '2' :: c :: rest =>
    if c = 'F' ∨ c = 'f' then '/' :: restore rest
    else if c = '5' then '%' :: restore rest
    else '%' :: restore ('2' :: c :: rest)
  | c :: rest => c :: restore rest

/-- The form in which the matcher sees the text of a slot once it has been put into a path. -/
def matchedForm (wildcard : Bool) (s : List Char) : List Char :=
  unescape (encodeValue wildcard s)

def encodePair (p : String × String) : List Char :=
  encodePiece p.1.toList ++ '=' :: encodePiece p.2.toList

def joinPairs : List (String × String) → List Char
  | [] => []
  | [p] => encodePair p
  | p :: rest => encodePair p ++ '&' :: joinPairs rest

def encodeQuery (pairs : List (String × String)) : List Char :=
  if pairs.isEmpty then [] else '?' :: joinPairs pairs

end UrlRouting.Percent
