import UrlRouting.Value
import UrlRouting.Percent

/-! Writing of JSON texts without blanks. -/

namespace UrlRouting.Json

def lowerHex (n : Nat) : Char := Char.ofNat (if n < 10 then 48 + n else 87 + n)

/-- Quotes, backslashes and control characters are escaped, the common ones by a letter. -/
def writeChar (c : Char) : List Char :=
  match c with
  | '"' => ['\\', '"']
  | '\\' => ['\\', '\\']
  | '\x08' => ['\\', 'b']
  | '\x0c' => ['\\', 'f']
  | '\n' => ['\\', 'n']
  | '\r' => ['\\', 'r']
  | '\t' => ['\\', 't']
  | _ =>
    if c.toNat < 32 then
      ['\\', 'u', '0', '0', lowerHex (c.toNat / 16), lowerHex (c.toNat % 16)]
    else [c]

def writeText (s : String) : List Char := '"' :: s.toList.flatMap writeChar ++ ['"']

def commaSeparated : List (List Char) → List Char
  | [] => []
  | [item] => item
  | item :: rest => item ++ ',' :: commaSeparated rest

def writeList (items : List (List Char)) : List Char := '[' :: commaSeparated items ++ [']']

def writeEntry (name : String) (value : List Char) : List Char := writeText name ++ ':' :: value

def writeTable (entries : List (String × List Char)) : List Char :=
  '\x7b' :: commaSeparated (entries.map fun e => writeEntry e.1 e.2) ++ ['\x7d']

def writeValue : ParamValue → List Char
  | .text s => if s = "" then "null".toList else writeText s
  | .int i => (toString i.toInt).toList
  | .absent => "null".toList

def writeSet (p : ParameterSet) : List Char :=
  writeTable (p.entries.map fun e => (e.1, writeValue e.2))

def writeTexts (v : NameMap String) : List Char :=
  writeTable (v.entries.map fun e => (e.1, writeText e.2))

end UrlRouting.Json
