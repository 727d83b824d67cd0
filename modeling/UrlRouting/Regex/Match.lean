import UrlRouting.Regex.Basic

/-! Matching. From a place in the text an expression reaches a list of ends, best first: an
earlier alternative is better, and a greedy repetition prefers more rounds. Only the best way to
each place is kept, since what follows depends on the place alone, so the lists stay short. -/

namespace UrlRouting

/-- A place an expression can reach, with the text of the groups passed on the way, latest
first. -/
structure Reach where
  cursor : Cursor
  captures : List (String × List Char)
deriving DecidableEq, Repr

namespace Reach

def stay (c : Cursor) : Reach := ⟨c, []⟩

def after (earlier : List (String × List Char)) (e : Reach) : Reach :=
  ⟨e.cursor, e.captures ++ earlier⟩

/-- Keeps the first way to each place; the bits of `seen` are the places already kept. -/
def firsts (seen : Nat) : List Reach → List Reach
  | [] => []
  | e :: rest =>
    if seen.testBit e.cursor.index then firsts seen rest
    else e :: firsts (seen ||| 1 <<< e.cursor.index) rest

end Reach

/-- For each place of a stretch of text, in order, what an expression reaches from it. -/
abbrev Rows := Array (List Reach)

namespace Rows

def row (rows : Rows) (base : Nat) (c : Cursor) : List Reach := rows.getD (c.index - base) []

def stay (places : List Cursor) : Rows := (places.map fun c => [Reach.stay c]).toArray

def through (next : Cursor → List Reach) (row : List Reach) : List Reach :=
  row.flatMap fun e => (next e.cursor).map (Reach.after e.captures)

def compose (base : Nat) (first second : Rows) : Rows :=
  first.map fun row => Reach.firsts 0 (through (second.row base) row)

def power (base : Nat) (places : List Cursor) (body : Rows) : Nat → Rows
  | 0 => stay places
  | n + 1 => compose base (power base places body n) body

def orStay (greedy : Bool) (c : Cursor) (going : List Reach) : List Reach :=
  Reach.firsts 0 (if greedy then going ++ [Reach.stay c] else Reach.stay c :: going)

def upTo (base : Nat) (places : List Cursor) (greedy : Bool) (body : Rows) : Nat → Rows
  | 0 => stay places
  | n + 1 =>
    let fewer := upTo base places greedy body n
    (places.map fun c => orStay greedy c (through (fewer.row base) (body.row base c))).toArray

/-- What is reached by rounds of the body, each of which must advance, from each of the places
given and the later ones. The rows are built from the end of the text, so the row of a later place
is found by its distance from the end. -/
def rounds (last base : Nat) (greedy : Bool) (body : Rows) : List Cursor → Rows
  | [] => #[]
  | c :: later =>
    let done := rounds last base greedy body later
    let going := (body.row base c).flatMap fun e =>
      if e.cursor.index ≤ c.index then []
      else (done.getD (last - e.cursor.index) []).map (Reach.after e.captures)
    done.push (orStay greedy c going)

/-- One round or more. A first round that does not advance is also the last. -/
def oneOrMore (last base : Nat) (greedy : Bool) (places : List Cursor) (body : Rows) : Rows :=
  let more := rounds last base greedy body places
  (places.map fun c => Reach.firsts 0 <| (body.row base c).flatMap fun e =>
    if e.cursor.index ≤ c.index then [e]
    else (more.getD (last - e.cursor.index) []).map (Reach.after e.captures)).toArray

def loop (places : List Cursor) (body : Rows) (least : Nat) (most : Option Nat)
    (greedy : Bool) : Rows :=
  let base := (places.head?.map (·.index)).getD 0
  let last := base + (places.length - 1)
  match most with
  | some most =>
    let extra := min (most - least) (places.length + 1)
    compose base (power base places body least) (upTo base places greedy body extra)
  | none =>
    let atLeastOne := oneOrMore last base greedy places body
    match least with
    | 0 => (places.map fun c => orStay greedy c (atLeastOne.row base c)).toArray
    | n + 1 => compose base (power base places body n) atLeastOne

end Rows

namespace Regex

def climb (set : CharSet) (index : Nat) : List Char → List Cursor
  | [] => []
  | c :: rest => if set.contains c then ⟨index + 1, some c, rest⟩ :: climb set (index + 1) rest
    else []

def runEnds (set : CharSet) (least : Nat) (most : Option Nat) (greedy : Bool) (c : Cursor) :
    List Cursor :=
  let reached := c :: climb set c.index c.rest
  let allowed := (match most with
    | some n => reached.take (n + 1)
    | none => reached).drop least
  if greedy then allowed.reverse else allowed

def leafEnds (c : Cursor) : Regex → List Reach
  | empty => [Reach.stay c]
  | one set =>
    match c.rest with
    | x :: rest => if set.contains x then [Reach.stay ⟨c.index + 1, some x, rest⟩] else []
    | [] => []
  | anchor condition => if condition.holds c then [Reach.stay c] else []
  | run set least most greedy => (runEnds set least most greedy c).map Reach.stay
  | _ => []

def noted (name : Option String) (c : Cursor) (e : Reach) : Reach :=
  match name with
  | some name => ⟨e.cursor, (name, c.upTo e.cursor) :: e.captures⟩
  | none => e

def rows (places : List Cursor) : Regex → Rows
  | seq r s =>
    let base := (places.head?.map (·.index)).getD 0
    Rows.compose base (r.rows places) (s.rows places)
  | alt r s => ((r.rows places).zip (s.rows places)).map fun p => Reach.firsts 0 (p.1 ++ p.2)
  | optional r greedy =>
    (places.toArray.zip (r.rows places)).map fun p => Rows.orStay greedy p.1 p.2
  | group name r =>
    (places.toArray.zip (r.rows places)).map fun p => p.2.map (noted name p.1)
  | loop r least most greedy => Rows.loop places (r.rows places) least most greedy
  | leaf => (places.map fun c => leaf.leafEnds c).toArray

/-- What an expression reaches from a place, best first and each place once. -/
def ends (c : Cursor) : Regex → List Reach
  | seq r s => Reach.firsts 0 ((r.ends c).flatMap fun e =>
      (s.ends e.cursor).map (Reach.after e.captures))
  | alt r s => Reach.firsts 0 (r.ends c ++ s.ends c)
  | optional r greedy => Rows.orStay greedy c (r.ends c)
  | group name r => (r.ends c).map (noted name c)
  | loop r least most greedy =>
    (Rows.loop c.places (r.rows c.places) least most greedy).row c.index c
  | leaf => leaf.leafEnds c

/-- What the groups hold after the best match that begins earliest, if there is a match. -/
def search (r : Regex) (text : List Char) : Option (List (String × List Char)) :=
  (Cursor.start text).places.findSome? fun c => (r.ends c).head?.map (·.captures)

def isMatch (r : Regex) (text : List Char) : Bool := (r.search text).isSome

end Regex

end UrlRouting
