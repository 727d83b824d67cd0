import UrlRouting.Route.Matcher

/-! Routes: a pattern with defaults, validators and perhaps an alias, ready to match paths and to
render them. -/

namespace UrlRouting

structure Declaration where
  pattern : String
  aliasName : Option String
  defaults : ParameterSet
  validators : Validators
deriving DecidableEq, Inhabited

structure Route where
  pattern : String
  aliasName : Option String
  defaults : ParameterSet
  validators : Validators
  segments : List Segment
  matchers : Matcher.Matchers

namespace Route

/-- Compiles a declaration. Only fragments of the pattern's own parameters are looked at. -/
def compile (d : Declaration) : Except PatternError Route :=
  match Pattern.read d.pattern with
  | .error e => .error e
  | .ok segments =>
    match Matcher.build? segments d.defaults d.validators with
    | none => .error ⟨.invalidValidator, d.pattern⟩
    | some matchers =>
      .ok ⟨Pattern.normalize d.pattern, d.aliasName, d.defaults, d.validators, segments, matchers⟩

def params (r : Route) : List String := Pattern.names r.segments

def required (r : Route) : List String :=
  (NameMap.ofList ((r.params.filter fun name => !r.defaults.contains name).map
    fun name => (name, ()))).names

def keys (r : Route) : List String :=
  (NameMap.ofList ((r.params ++ r.defaults.names).map fun name => (name, ()))).names

def maxKeys (r : Route) : Nat := r.keys.length

def matchesShape (r : Route) (path : List Char) : Bool := r.matchers.shape.isMatch path

/-- Adds what a slot has taken to the values. A text that is empty without the slashes at its ends
changes nothing. -/
def addCapture (captures : List (String × List Char)) (values : ParameterSet) (name : String) :
    ParameterSet :=
  match captures.lookup name with
  | none => values
  | some taken =>
    let text := Slash.trim taken
    if text.isEmpty then values
    else values.insert name (.text (String.ofList (Percent.restore text)))

def capture (r : Route) (path : List Char) : Option ParameterSet :=
  (r.matchers.strict.search path).map fun captures =>
    r.params.foldl (addCapture captures) r.defaults

/-- Whether a value may be put into a slot: as it is given, and in the form in which the matcher
sees it afterwards. A missing value may be. -/
def slotAdmits (kind : SlotKind) (check : Regex) (v : ParamValue) : Bool :=
  match v.text? with
  | none => true
  | some text => check.isMatch text.toList &&
      check.isMatch (Percent.matchedForm kind.isWildcard text.toList)

/-- Whether a name and value may be supplied: a parameter with a value for its slot, or another
name whose default is the same value. -/
def admits (r : Route) (name : String) (v : ParamValue) : Bool :=
  match r.matchers.checks.lookup name with
  | some (kind, check) => slotAdmits kind check v
  | none => (r.defaults.get? name).any (·.equivalent v)

def addSupplied? (r : Route) (accepted : ParameterSet) (e : String × ParamValue) : Option ParameterSet :=
  if r.admits e.1 e.2 then some (accepted.insert e.1 e.2) else none

def gather? (r : Route) (supplied : ParameterSet) : Option ParameterSet :=
  supplied.entries.foldlM r.addSupplied? NameMap.empty

def accept (r : Route) (supplied : ParameterSet) : Option ParameterSet := do
  let accepted ← r.gather? supplied
  if accepted.size ≤ r.maxKeys ∧ r.required.all accepted.contains then some accepted else none

def resolve? (r : Route) (supplied : ParameterSet) (name : String) : Option String :=
  match supplied.text? name with
  | some text => some text
  | none => r.defaults.text? name

def renderPart (r : Route) (supplied : ParameterSet) : Part → List Char
  | .literal text => text.toList
  | .slot kind name =>
    match r.resolve? supplied name with
    | some text => Percent.encodeValue kind.isWildcard text.toList
    | none => []

def renderSegment (r : Route) (supplied : ParameterSet) (s : Segment) : List Char :=
  s.parts.flatMap (r.renderPart supplied)

/-- The path for the values. A segment without text is left out with its slash. -/
def render (r : Route) (supplied : ParameterSet) : List Char :=
  let path := r.segments.flatMap fun s =>
    let text := r.renderSegment supplied s
    if text.isEmpty then [] else '/' :: text
  if path.isEmpty then ['/'] else path

end Route

end UrlRouting
