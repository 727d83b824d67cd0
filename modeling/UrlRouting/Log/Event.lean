/-! Log events. -/

namespace UrlRouting.Log

inductive Level where
  | error
  | warn
  | info
  | debug
  | trace
deriving DecidableEq, Repr, Inhabited

namespace Level

def rank : Level → Nat
  | error => 1
  | warn => 2
  | info => 3
  | debug => 4
  | trace => 5

def name : Level → String
  | error => "ERROR"
  | warn => "WARN"
  | info => "INFO"
  | debug => "DEBUG"
  | trace => "TRACE"

end Level

inductive FieldValue where
  | text (s : String)
  | number (n : Nat)
  | flag (b : Bool)
  /-- The time that the operation took, which is known only where it is run. -/
  | elapsed
deriving DecidableEq, Repr, Inhabited

structure Event where
  level : Level
  target : String
  message : String
  fields : List (String × FieldValue)
deriving DecidableEq, Repr, Inhabited

/-- True if the event has a field of the name. The message counts as one. -/
def Event.hasField (e : Event) (name : String) : Bool :=
  name == "message" || e.fields.any fun f => f.1 == name

end UrlRouting.Log
