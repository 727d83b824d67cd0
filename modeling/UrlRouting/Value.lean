import UrlRouting.NameMap
import UrlRouting.Text.Quoted

/-! Parameter values and sets of them. A value is a text, an integer or absent. What callers mean
by no value has one spelling here, except that an empty text can still be built directly; it
counts as absent wherever that matters. -/

namespace UrlRouting

inductive ParamValue where
  | text (s : String)
  | int (i : Int64)
  | absent
deriving DecidableEq, Repr, Inhabited

namespace ParamValue

/-- The empty text means no value. -/
def ofString (s : String) : ParamValue := if s = "" then absent else text s

/-- Truth is the integer 1 and falsity means no value. -/
def ofBool (b : Bool) : ParamValue := if b then int 1 else absent

def text? : ParamValue → Option String
  | text s => if s = "" then none else some s
  | int i => some (toString i.toInt)
  | absent => none

def isAbsent : ParamValue → Bool
  | text s => s == ""
  | int _ => false
  | absent => true

def equivalent (a b : ParamValue) : Bool := a.text? == b.text?

def display (v : ParamValue) : String := v.text?.getD ""

def described : ParamValue → String
  | text s => "Text(" ++ Quoted.quote s ++ ")"
  | int i => "Int(" ++ toString i.toInt ++ ")"
  | absent => "Absent"

end ParamValue

abbrev ParameterSet := NameMap ParamValue

namespace ParameterSet

def text? (p : ParameterSet) (name : String) : Option String := (p.get? name).bind (·.text?)

def described (p : ParameterSet) : String :=
  "ParameterSet(" ++ Quoted.listing "\x7b" "\x7d"
    (p.entries.map fun e => Quoted.quote e.1 ++ ": " ++ e.2.described) ++ ")"

end ParameterSet

/-- Fragments of regular expressions by the name of the parameter each constrains. -/
abbrev Validators := NameMap String

end UrlRouting
