import UrlRouting.Unicode.Class
import UrlRouting.Text.Slash

/-! Route patterns: segments between slashes, each made of literal text and of slots. A slot is a
colon or, for one that may take in slashes, an asterisk, followed by the name of a parameter, which
is put in parentheses when word characters follow it. -/

namespace UrlRouting

/-- A simple slot takes one piece between slashes, a wildcard slot any number. -/
inductive SlotKind where
  | simple
  | wildcard
deriving DecidableEq, Repr, Inhabited

def SlotKind.isWildcard : SlotKind → Bool
  | simple => false
  | wildcard => true

inductive Part where
  | literal (text : String)
  | slot (kind : SlotKind) (name : String)
deriving DecidableEq, Repr, Inhabited

def Part.slot? : Part → Option (SlotKind × String)
  | literal _ => none
  | slot kind name => some (kind, name)

def Part.name? (p : Part) : Option String := p.slot?.map (·.2)

structure Segment where
  parts : List Part
deriving DecidableEq, Repr, Inhabited

namespace Segment

def sole? (s : Segment) : Option String :=
  match s.parts with
  | [.slot _ name] => some name
  | _ => none

def names (s : Segment) : List String := s.parts.filterMap Part.name?

end Segment

inductive PatternFault where
  | unbalancedGroup
  | emptyName
  | invalidName (name : String)
  | duplicateName (name : String)
  | invalidValidator
deriving DecidableEq, Repr

structure PatternError where
  fault : PatternFault
  pattern : String
deriving DecidableEq, Repr

/-- The message. What is wrong with a fragment that does not compile would follow behind a colon; it is left
out, as the reader of expressions only finds that one is refused. -/
def PatternError.message (e : PatternError) : String :=
  let named := "'" ++ e.pattern ++ "'"
  match e.fault with
  | .unbalancedGroup => "unbalanced group in pattern " ++ named
  | .emptyName => "empty parameter name in pattern " ++ named
  | .invalidName name => "invalid parameter name '" ++ name ++ "' in pattern " ++ named
  | .duplicateName name => "duplicate parameter '" ++ name ++ "' in pattern " ++ named
  | .invalidValidator => "validator for pattern " ++ named ++ " does not compile"

namespace Pattern

def isNameStart (c : Char) : Bool := Unicode.isAlphabetic c || c == '_'

def isNameChar (c : Char) : Bool := Unicode.isAlphanumeric c || c == '_'

def isName : List Char → Bool
  | [] => false
  | c :: rest => isNameStart c && isNameChar c && rest.all isNameChar

def slotKind? (c : Char) : Option SlotKind :=
  if c = ':' then some .simple else if c = '*' then some .wildcard else none

/-- The name that follows the sign of a slot, and the text after it: what stands in parentheses,
or the longest run of name characters. -/
def slotName : List Char → Except PatternFault (List Char × List Char)
  | '(' :: rest =>
    match rest.dropWhile (· != ')') with
    | _ :: after => .ok (rest.takeWhile (· != ')'), after)
    | [] => .error .unbalancedGroup
  | text => .ok (text.takeWhile isNameChar, text.dropWhile isNameChar)

theorem length_dropWhile_le (p : Char → Bool) (s : List Char) :
    (s.dropWhile p).length ≤ s.length := (List.dropWhile_sublist p).length_le

theorem length_slotName {text name after : List Char} (h : slotName text = .ok (name, after)) :
    after.length ≤ text.length := by
  unfold slotName at h
  split at h
  next rest =>
    split at h
    next c tail found =>
      cases h
      have := length_dropWhile_le (· != ')') rest
      rw [found] at this
      simp only [List.length_cons] at this ⊢
      omega
    next => cases h
  next => cases h; exact length_dropWhile_le _ _

def checkName (name : List Char) : Except PatternFault Unit :=
  if name.isEmpty then .error .emptyName
  else if isName name then .ok ()
  else .error (.invalidName (String.ofList name))

def addChar (c : Char) : List Part → List Part
  | .literal text :: parts => .literal (String.ofList (c :: text.toList)) :: parts
  | parts => .literal (String.singleton c) :: parts

/-- Divides the text of a segment into parts. The first fault from the left counts. -/
def readParts (text : List Char) : Except PatternFault (List Part) :=
  match text with
  | [] => .ok []
  | c :: rest =>
    match slotKind? c with
    | none => (readParts rest).map (addChar c)
    | some kind =>
      match h : slotName rest with
      | .error fault => .error fault
      | .ok (name, after) => do
        have := length_slotName h
        checkName name
        let parts ← readParts after
        .ok (.slot kind (String.ofList name) :: parts)
termination_by text.length

def firstRepeated? (seen : List String) : List String → Option String
  | [] => none
  | name :: rest => if name ∈ seen then some name else firstRepeated? (name :: seen) rest

def names (segments : List Segment) : List String := segments.flatMap Segment.names

/-- Reads the segments of a pattern. Slashes at the ends, and more than one slash in a place, make
no difference. -/
def readSegments (text : List Char) : Except PatternFault (List Segment) := do
  let segments ← ((Slash.pieces text).filter (!·.isEmpty)).mapM fun piece =>
    (readParts piece).map Segment.mk
  match firstRepeated? [] (names segments) with
  | some name => .error (.duplicateName name)
  | none => .ok segments

def read (pattern : String) : Except PatternError (List Segment) :=
  match readSegments pattern.toList with
  | .ok segments => .ok segments
  | .error fault => .error ⟨fault, pattern⟩

def normalize (pattern : String) : String := String.ofList (Slash.rooted pattern.toList)

end Pattern

end UrlRouting
