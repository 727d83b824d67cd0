import UrlRouting.Unicode.Class

/-! Text between double quotes, as shown in listings: a character without visible form, or one that
attaches to its neighbour, is written by its code point. -/

namespace UrlRouting.Quoted

def hexadecimal (n : Nat) : List Char := Nat.toDigits 16 n

def quoteChar (c : Char) : List Char :=
  match c with
  | '\x00' => ['\\', '0']
  | '\t' => ['\\', 't']
  | '\n' => ['\\', 'n']
  | '\r' => ['\\', 'r']
  | '"' => ['\\', '"']
  | '\\' => ['\\', '\\']
  | _ =>
    if Unicode.isExtender c || !Unicode.isPrintable c then
      ['\\', 'u', '\x7b'] ++ hexadecimal c.toNat ++ ['\x7d']
    else [c]

def quote (s : String) : String :=
  String.ofList ('"' :: s.toList.flatMap quoteChar ++ ['"'])

def listing (opening closing : String) (items : List String) : String :=
  opening ++ String.intercalate ", " items ++ closing

def optional : Option String → String
  | none => "None"
  | some s => "Some(" ++ quote s ++ ")"

def set (items : List String) : String := listing "\x7b" "\x7d" (items.map quote)

end UrlRouting.Quoted
