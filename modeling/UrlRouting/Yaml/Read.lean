import UrlRouting.Document.Basic
import UrlRouting.Yaml.Node

/-! YAML texts as documents. Where a text is expected any scalar will do, as it is written. Where a
value is expected a plain scalar is read as null, a truth value, a number or else a text, and a tag
may ask for one of them. -/

namespace UrlRouting.Yaml

def isNull (s : String) : Bool := s == "null" || s == "Null" || s == "NULL" || s == "~"

def bool? (s : String) : Option Bool :=
  if s = "true" ∨ s = "True" ∨ s = "TRUE" then some true
  else if s = "false" ∨ s = "False" ∨ s = "FALSE" then some false
  else none

def inBase? (base : Nat) (digits : List Char) : Option Nat :=
  if digits.isEmpty then none
  else digits.foldlM (fun n c => do
    let v ← Percent.hexValue? c
    if v < base then some (n * base + v) else none) 0

def markedBase? : List Char → Option (Nat × List Char)
  | '0' :: 'x' :: rest => some (16, rest)
  | '0' :: 'o' :: rest => some (8, rest)
  | '0' :: 'b' :: rest => some (2, rest)
  | _ => none

def unsigned : List Char → List Char
  | '+' :: rest => rest
  | '-' :: rest => rest
  | s => s

def isZeroLed (s : List Char) : Bool :=
  match unsigned s with
  | '0' :: c :: rest => (c :: rest).all isDigit
  | _ => false

def integer? (s : List Char) : Option Int :=
  let negative := s.head? == some '-'
  let digits := unsigned s
  let signed (n : Nat) : Int := if negative then -(n : Int) else n
  match markedBase? digits with
  | some (base, rest) => (inBase? base rest).map signed
  | none => if isZeroLed s then none else (inBase? 10 digits).map signed

def isDecimal (s : List Char) : Bool :=
  let whole := s.takeWhile isDigit
  let rest := s.dropWhile isDigit
  let (part, rest) := match rest with
    | '.' :: rest => (rest.takeWhile isDigit, rest.dropWhile isDigit)
    | _ => ([], rest)
  let exponent := match rest with
    | [] => true
    | c :: rest =>
      let digits := unsigned rest
      (c == 'e' || c == 'E') && !digits.isEmpty && digits.all isDigit
  (!whole.isEmpty || !part.isEmpty) && exponent

/-- The power of ten of the first digit that is not zero, less one place; none for zero. -/
def magnitude? (s : List Char) : Option Int :=
  let mantissa := s.takeWhile fun c => isDigit c || c == '.'
  let exponent : Int := match s.dropWhile fun c => isDigit c || c == '.' with
    | _ :: rest =>
      let n := ((unsigned rest).foldl (fun n c => n * 10 + (c.toNat - 48)) 0 : Nat)
      if rest.head? = some '-' then -(n : Int) else n
    | [] => 0
  let whole := mantissa.takeWhile isDigit
  let part := (mantissa.dropWhile isDigit).drop 1
  let all := whole ++ part
  let zeros := (all.takeWhile (· == '0')).length
  if zeros = all.length then none
  else some (exponent + whole.length - zeros)

def tooLarge : Nat := 18014398509481983 <<< 970

def overflows (s : List Char) : Bool :=
  match magnitude? s with
  | none => false
  | some m =>
    if m < 309 then false
    else if 309 < m then true
    else
      let digits := (s.takeWhile fun c => isDigit c || c == '.').filter isDigit
      let lead := ((digits.dropWhile (· == '0')) ++ List.replicate 309 '0').take 309
      let n := lead.foldl (fun n c => n * 10 + (c.toNat - 48)) 0
      decide (tooLarge ≤ n)

def isFraction (s : List Char) : Bool :=
  let text := String.ofList s
  let positive := match s with
    | '+' :: rest => rest
    | _ => s
  let doubled := s.head? == some '+' && positive.head?.any fun c => c == '+' || c == '-'
  let infinite (t : String) : Bool := t == ".inf" || t == ".Inf" || t == ".INF"
  !doubled &&
    (infinite (String.ofList positive) ||
      (s.head? == some '-' && infinite (String.ofList (s.drop 1))) ||
      text == ".nan" || text == ".NaN" || text == ".NAN" ||
      (let digits := match positive with
        | '-' :: rest => rest
        | _ => positive
       isDecimal digits && !overflows digits))

def plainValue (text : String) : Scalar :=
  let s := text.toList
  if text = "" ∨ isNull text then .null
  else
    match bool? text with
    | some b => .bool b
    | none =>
      match integer? s with
      | some i => Document.intScalar i
      | none => if !isZeroLed s && isFraction s then .foreign else .text text

def standardTag (kind : String) : String := "tag:yaml.org,2002:" ++ kind

/-- The value of a scalar with a tag. A tag of the author's own makes it no parameter value. -/
def taggedValue (text : String) (plain : Bool) (tag : String) : Scalar :=
  if tag.toList.head? = some '!' then .foreign
  else if tag = standardTag "bool" then ((bool? text).map Scalar.bool).getD .foreign
  else if tag = standardTag "int" then ((integer? text.toList).map Document.intScalar).getD .foreign
  else if tag = standardTag "float" then .foreign
  else if tag = standardTag "null" then
    if plain then (if isNull text then .null else .falseNull) else .foreign
  else .text text

def scalarDocument (text : String) (plain : Bool) (tag : Option String) : Document :=
  let value := match tag with
    | some tag => taggedValue text plain tag
    | none => if plain then plainValue text else .text text
  .scalar (some text) value (plain && text == "")

namespace Node

/-- The document of a node. The documents of use here are not deep, so a bound on the depth is
enough to stop at a node that holds itself. -/
def document (nodes : List (Nat × Node)) : Nat → Node → Option Document
  | 0, _ => none
  | _ + 1, scalar text plain tag => some (scalarDocument text plain tag)
  | depth + 1, sequence items => (items.mapM (document nodes depth)).map .list
  | depth + 1, mapping entries => do
    let entries ← entries.mapM fun e => do
      let name ← (document nodes depth e.1).bind Document.text?
      let value ← document nodes depth e.2
      some (name, value)
    some (.table entries)
  | depth + 1, reference id => (nodes.lookup id).bind (document nodes depth)

end Node

/-- Reads a text that holds at most one document. A text without any counts as one without
entries. -/
def read? (text : String) : Option Document := do
  let tokens ← tokens? text.toList
  match ← Node.document? tokens.toList with
  | some (n, nodes) => n.document nodes 12
  | none => some (.scalar none .null true)

end UrlRouting.Yaml
