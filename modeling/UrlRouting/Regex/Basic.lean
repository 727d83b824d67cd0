import UrlRouting.Unicode.Class

/-! Regular expressions over characters, with named groups. Letter case, the meaning of a dot and
the like are settled when an expression is read, so they do not appear here. -/

namespace UrlRouting

/-- A place in a text: how many characters lie before it, the last of them, and those after. -/
structure Cursor where
  index : Nat
  before : Option Char
  rest : List Char
deriving DecidableEq, Repr

namespace Cursor

def start (text : List Char) : Cursor := ⟨0, none, text⟩

def onward (index : Nat) (before : Option Char) : List Char → List Cursor
  | [] => [⟨index, before, []⟩]
  | c :: rest => ⟨index, before, c :: rest⟩ :: onward (index + 1) (some c) rest

def places (c : Cursor) : List Cursor := onward c.index c.before c.rest

def upTo (a b : Cursor) : List Char := a.rest.take (b.index - a.index)

end Cursor

inductive WordEdge where
  | edge
  | inside
  | opening
  | closing
  | halfOpening
  | halfClosing
deriving DecidableEq, Repr

/-- A condition on a place. Word edges come with the choice between all word characters and the
first 128. -/
inductive Anchor where
  | textStart
  | textEnd
  | lineStart
  | lineEnd
  /-- Line starts and ends where either or both of the two line marks end a line. -/
  | anyLineStart
  | anyLineEnd
  | word (kind : WordEdge) (ascii : Bool)
deriving DecidableEq, Repr

namespace WordEdge

def between (before after : Bool) : WordEdge → Bool
  | .edge => before != after
  | .inside => before == after
  | .opening => !before && after
  | .closing => before && !after
  | .halfOpening => !before
  | .halfClosing => !after

end WordEdge

def Anchor.holds (c : Cursor) : Anchor → Bool
  | textStart => c.index == 0
  | textEnd => c.rest.isEmpty
  | lineStart => c.index == 0 || c.before == some '\n'
  | lineEnd => c.rest.isEmpty || c.rest.head? == some '\n'
  | anyLineStart => c.index == 0 || c.before == some '\n' ||
      (c.before == some '\r' && c.rest.head? != some '\n')
  | anyLineEnd => c.rest.isEmpty || c.rest.head? == some '\r' ||
      (c.rest.head? == some '\n' && c.before != some '\r')
  | word kind ascii =>
    let member := if ascii then Unicode.isAsciiWordMember else Unicode.isWordMember
    kind.between (c.before.any member) (c.rest.head?.any member)

inductive Regex where
  | empty
  /-- One character of a set. -/
  | one (set : CharSet)
  | anchor (condition : Anchor)
  | seq (first second : Regex)
  /-- Either expression, the first preferred. -/
  | alt (first second : Regex)
  /-- Characters of a set, at least `least` and at most `most` of them. -/
  | run (set : CharSet) (least : Nat) (most : Option Nat) (greedy : Bool)
  | optional (body : Regex) (greedy : Bool)
  | loop (body : Regex) (least : Nat) (most : Option Nat) (greedy : Bool)
  | group (name : Option String) (body : Regex)
deriving DecidableEq, Repr, Inhabited

namespace Regex

def groupNames : Regex → List String
  | seq r s => r.groupNames ++ s.groupNames
  | alt r s => r.groupNames ++ s.groupNames
  | optional r _ => r.groupNames
  | loop r _ _ _ => r.groupNames
  | group name r => name.toList ++ r.groupNames
  | _ => []

def nullable : Regex → Bool
  | empty => true
  | one _ => false
  | anchor _ => true
  | seq r s => r.nullable && s.nullable
  | alt r s => r.nullable || s.nullable
  | run _ least _ _ => least == 0
  | optional _ _ => true
  | loop r least _ _ => least == 0 || r.nullable
  | group _ r => r.nullable

/-- True if the expression can only match without taking a character. -/
def weightless : Regex → Bool
  | empty => true
  | one _ => false
  | anchor _ => true
  | seq r s => r.weightless && s.weightless
  | alt r s => r.weightless && s.weightless
  | run _ _ most _ => most == some 0
  | optional r _ => r.weightless
  | loop r _ most _ => most == some 0 || r.weightless
  | group _ r => r.weightless

def chain : List Regex → Regex
  | [] => empty
  | r :: rest => rest.foldl seq r

def repeated (r : Regex) (least : Nat) (most : Option Nat) (greedy : Bool) : Regex :=
  match r with
  | one set => run set least most greedy
  | _ => if least = 0 ∧ most = some 1 then optional r greedy else loop r least most greedy

end Regex

end UrlRouting
