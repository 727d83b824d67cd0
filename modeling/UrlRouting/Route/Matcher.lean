import UrlRouting.Value
import UrlRouting.Percent
import UrlRouting.Pattern
import UrlRouting.Regex.Parse
import UrlRouting.Regex.Match

/-! The matchers of a route. The shape of a route accepts any text in its slots; the strict matcher
holds the slots that have a validator to it. Both leave out the optional tail: the segments at the
end that are each one slot with a default, any number of which may be missing from the last on.

A fragment is put into the text of the strict matcher as it stands, so it may well close the group
around it and open another. Without validators for its slots a route has one matcher, which needs
no text. -/

namespace UrlRouting.Matcher

open Regex

/-- What a slot without validator takes. Brackets make a level of nesting. -/
def slotNode : SlotKind → Node
  | .simple => (Node.mk (.one (CharSet.except '/')) 1 false).repeated 1 none true
  | .wildcard => (Node.leaf (.one (CharSet.except '\n'))).repeated 1 none true

def slotText : SlotKind → List Char
  | .simple => "[^/]+".toList
  | .wildcard => ".+".toList

def literalText (text : String) : List Char := Percent.unescape text.toList

def isOptional (defaults : ParameterSet) (s : Segment) : Bool := s.sole?.any defaults.contains

def splitTail (defaults : ParameterSet) (segments : List Segment) :
    List Segment × List Segment :=
  let optional := (segments.reverse.takeWhile (isOptional defaults)).length
  (segments.take (segments.length - optional), segments.drop (segments.length - optional))

namespace Shape

def partNodes : Part → List Node
  | .literal text => (literalText text).map Node.literal
  | .slot kind name => [Node.group (some name) (slotNode kind)]

def segmentNodes (s : Segment) : List Node := Node.literal '/' :: s.parts.flatMap partNodes

/-- Each segment of the tail is optional and holds the rest of the tail. -/
def tailNodes : List Segment → List Node
  | [] => []
  | s :: rest =>
    [(Node.concat (segmentNodes s ++ tailNodes rest)).enclosed.repeated 0 (some 1) true]

/-- The whole path from its start to its end. Where all segments are optional a lone slash is left
when all are missing. -/
def node (required tail : List Segment) : Node :=
  Node.concat <|
    Node.leaf (.anchor .textStart) :: required.flatMap segmentNodes ++ tailNodes tail ++
      (if required.isEmpty then [(Node.literal '/').repeated 0 (some 1) true] else []) ++
      [Node.leaf (.anchor .textEnd)]

end Shape

namespace Strict

def quoteLiteral (text : List Char) : List Char :=
  text.flatMap fun c => if isMeta c then ['\\', c] else [c]

def slot (validators : Validators) (kind : SlotKind) (name : String) : List Char :=
  match validators.get? name with
  | some fragment => "(?:".toList ++ fragment.toList ++ [')']
  | none => slotText kind

def part (validators : Validators) : Part → List Char
  | .literal text => quoteLiteral (literalText text)
  | .slot kind name =>
    "(?P<".toList ++ name.toList ++ '>' :: slot validators kind name ++ [')']

def segment (validators : Validators) (s : Segment) : List Char :=
  '/' :: s.parts.flatMap (part validators)

def tail (validators : Validators) : List Segment → List Char
  | [] => []
  | s :: rest => "(?:".toList ++ segment validators s ++ tail validators rest ++ ")?".toList

def text (validators : Validators) (required optional : List Segment) : List Char :=
  '^' :: required.flatMap (segment validators) ++ tail validators optional ++
    (if required.isEmpty then "/?".toList else []) ++ ['$']

end Strict

def checkNode? (validators : Validators) (kind : SlotKind) (name : String) : Option Node :=
  match validators.get? name with
  | some fragment =>
    Node.parse? ("^(?:(?:".toList ++ fragment.toList ++ "))$".toList)
  | none =>
    some (Node.concat [Node.leaf (.anchor .textStart), (slotNode kind).enclosed,
      Node.leaf (.anchor .textEnd)])

structure Matchers where
  shape : Regex
  strict : Regex
  checks : List (String × SlotKind × Regex)
deriving Repr

def slots (segments : List Segment) : List (SlotKind × String) :=
  segments.flatMap fun s => s.parts.filterMap Part.slot?

/-- The strict matcher: one of its own only if a slot has a validator. -/
def strict? (segments required tail : List Segment) (validators : Validators) (shape : Regex) :
    Option Regex :=
  if (slots segments).any fun s => validators.contains s.2 then
    Regex.compile? (Strict.text validators required tail)
  else some shape

def check? (validators : Validators) (kind : SlotKind) (name : String) :
    Option (String × SlotKind × Regex) := do
  let node ← checkNode? validators kind name
  let check ← node.compile?
  some (name, kind, check)

def build? (segments : List Segment) (defaults : ParameterSet) (validators : Validators) :
    Option Matchers := do
  let (required, tail) := splitTail defaults segments
  let shape ← (Shape.node required tail).compile?
  let strict ← strict? segments required tail validators shape
  let checks ← (slots segments).mapM fun s => check? validators s.1 s.2
  some ⟨shape, strict, checks⟩

end UrlRouting.Matcher
