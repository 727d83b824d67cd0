import UrlRouting.Log.Event
import UrlRouting.Regex.Parse

/-! Filters of log events. A filter is a list of directives, of which the most specific one that
applies to an event decides. -/

namespace UrlRouting.Log

/-- The least important level let through; none lets nothing through. -/
abbrev Threshold := Option Level

def thresholdOfRank? : Nat → Option Threshold
  | 0 => some none
  | 1 => some (some .error)
  | 2 => some (some .warn)
  | 3 => some (some .info)
  | 4 => some (some .debug)
  | 5 => some (some .trace)
  | _ => none

def number? (s : List Char) : Option Nat :=
  let digits := match s with
    | '+' :: rest => rest
    | _ => s
  if digits.isEmpty || !digits.all Unicode.isAsciiDigit then none
  else some (digits.foldl (fun n c => n * 10 + (c.toNat - 48)) 0)

/-- A threshold by its rank or by its name, in which case does not count. An empty text stands for
errors. -/
def threshold? (s : List Char) : Option Threshold :=
  match (number? s).bind thresholdOfRank? with
  | some t => some t
  | none =>
    match Unicode.asciiLowerText (String.ofList s) with
    | "" => some (some .error)
    | "error" => some (some .error)
    | "warn" => some (some .warn)
    | "info" => some (some .info)
    | "debug" => some (some .debug)
    | "trace" => some (some .trace)
    | "off" => some none
    | _ => none

structure Directive where
  threshold : Threshold
  target : Option String
  span : Option String
  fields : List (String × Option String)
deriving DecidableEq, Repr, Inhabited

namespace Directive

def global (t : Threshold) : Directive := ⟨t, none, none, []⟩

def field? (s : List Char) : Option (String × Option String) :=
  let name := String.ofList (s.takeWhile (· != '='))
  match s.dropWhile (· != '=') with
  | [] => if s.isEmpty then none else some (name, none)
  | _ :: rest =>
    let value := String.ofList (rest.takeWhile (· != '='))
    (Regex.Node.parse? value.toList).map fun _ => (name, some value)

inductive Part where
  | start
  | word (first : Nat)
  | span (first : Nat)
  | field (first : Nat)
  | fieldsEnd
  | spanEnd
  | level (first : Nat)
deriving DecidableEq, Repr

def slice (s : List Char) (first past : Nat) : List Char := (s.drop first).take (past - first)

def text (s : List Char) (first past : Nat) : String := String.ofList (slice s first past)

def step? (s : List Char) (reached : Part × Directive) (met : Char × Nat) :
    Option (Part × Directive) :=
  let (part, d) := reached
  let (c, i) := met
  match part with
  | .start =>
    if c = '[' then some (.span (i + 1), d)
    else if c == '-' || c == ':' || c == '_' || Unicode.isAlphanumeric c then some (.word i, d)
    else none
  | .word first =>
    if c = '=' then some (.level (i + 1), { d with target := some (text s first i) })
    else if c = '[' then some (.span (i + 1), { d with target := some (text s first i) })
    else some (part, d)
  | .span first =>
    if c = ']' then some (.spanEnd, { d with span := some (text s first i) })
    else if c = '\x7b' then
      some (.field (i + 1), { d with span := if i ≤ first then none else some (text s first i) })
    else some (part, d)
  | .field first =>
    if c = '\x7d' then
      (field? (slice s first i)).map fun f => (.fieldsEnd, { d with fields := d.fields ++ [f] })
    else some (part, d)
  | .fieldsEnd => if c = ']' then some (.spanEnd, d) else none
  | .spanEnd => if c = '=' then some (.level (i + 1), d) else none
  | .level _ => some (part, d)

/-- Ends a directive. A word alone is a level or else a target, of which everything is let through;
so it is for what has no level. -/
def finish? (s : List Char) : Part × Directive → Option Directive
  | (.word first, d) =>
    match threshold? (s.drop first) with
    | some t => some { d with threshold := t, target := none }
    | none => some { d with target := some (String.ofList (s.drop first)) }
  | (.level first, d) =>
    if (s.drop first).isEmpty then some d
    else (threshold? (s.drop first)).map fun t => { d with threshold := t }
  | (.spanEnd, d) => some d
  | _ => none

/-- Reads a directive. Blanks at its ends are passed over when its parts are told apart, but not
taken off the text. -/
def parse? (s : List Char) : Option Directive :=
  let body := ((s.dropWhile Unicode.isBlank).reverse.dropWhile Unicode.isBlank).reverse
  (body.zipIdx.foldlM (step? s) (Part.start, global (some .trace))).bind (finish? s)

/-- A directive that names a span, or the value of a field, says nothing about events outside
spans. -/
def isStatic (d : Directive) : Bool := d.span.isNone && d.fields.all fun f => f.2.isNone

def appliesTo (d : Directive) (e : Event) : Bool :=
  d.isStatic && (d.target.all fun t => t.toList.isPrefixOf e.target.toList) &&
    d.fields.all fun f => e.hasField f.1

/-- What makes a directive more specific, the first number first: a target, its length, and the
number of fields. -/
def weight (d : Directive) : Nat × Nat :=
  ((d.target.map fun t => t.utf8ByteSize + 1).getD 0, d.fields.length)

def supersedes (later earlier : Directive) : Bool :=
  let (a, b) := later.weight
  let (c, d) := earlier.weight
  decide (c < a) || (a == c && (decide (d < b) ||
    (b == d && decide (¬ (later.fields.map (·.1)) < (earlier.fields.map (·.1))))))

end Directive

structure Filter where
  directives : List Directive
deriving DecidableEq, Repr, Inhabited

namespace Filter

def ofThreshold (t : Threshold) : Filter := ⟨[Directive.global t]⟩

def pieces (s : List Char) : List (List Char) :=
  (s.splitBy fun a b => a != ',' && b != ',').filter fun p => p != [','] && !p.isEmpty

/-- Reads directives with commas between them. Without any, errors are let through. -/
def parse? (text : String) : Option Filter :=
  (((pieces text.toList).mapM Directive.parse?)).map fun ds =>
    if ds.isEmpty then ofThreshold (some .error) else ⟨ds⟩

def deciding? (f : Filter) (e : Event) : Option Directive :=
  (f.directives.filter (·.appliesTo e)).foldl
    (fun best d => match best with
      | none => some d
      | some b => if d.supersedes b then some d else some b) none

def admits (f : Filter) (e : Event) : Bool :=
  match f.deciding? e with
  | some d => d.threshold.any fun t => decide (e.level.rank ≤ t.rank)
  | none => false

end Filter

end UrlRouting.Log
