import Std.Data.HashMap
import UrlRouting.Regex.Basic
import UrlRouting.Text.ByteRange

/-! The size of the automaton of an expression, read over the bytes of a text. An expression whose
automaton would take more than ten mebibytes, in either direction of reading, is refused. A state
takes 32 bytes, each of its labelled edges 8 and each of its other branches 4. -/

namespace UrlRouting.Regex

inductive Direction where
  | forward
  | backward
deriving DecidableEq, Repr

abbrev SetSize := Direction → CharSet → Nat

def roughSetSize : SetSize := fun _ set => 32 + 32 + 40 * 4 * 7 * (set.ranges.length + 1)

abbrev States := Std.HashMap (List ((Nat × Nat) × Nat)) Nat

/-- The states that read the sequences given, of which those with the same continuations are one.
State 0 is the end of a sequence. -/
def mergedStates : Nat → List (List (Nat × Nat)) → StateM States Nat
  | 0, _ => pure 0
  | depth + 1, seqs =>
    if seqs.all (·.isEmpty) then pure 0
    else do
      let heads := (seqs.filterMap (·.head?)).foldr (fun r (acc : List (Nat × Nat)) =>
        if acc.head? = some r then acc else r :: acc) []
      let edges ← heads.mapM fun r => do
        let next ← mergedStates depth
          (seqs.filterMap fun s => if s.head? = some r then some s.tail else none)
        pure (r, next)
      let known ← get
      match known[edges]? with
      | some id => pure id
      | none =>
        let id := known.size + 1
        set (known.insert edges id)
        pure id

def commonLength : List (Nat × Nat) → List (Nat × Nat) → Nat
  | a :: s, b :: t => if a = b then commonLength s t + 1 else 0
  | _, _ => 0

def treeStates (earlier : List (Nat × Nat)) : List (List (Nat × Nat)) → Nat
  | [] => 0
  | s :: rest => s.length - commonLength earlier s + treeStates s rest

def exactSetSize : SetSize := fun direction set =>
  match set.ranges with
  | [] => 32
  | ranges =>
    if set.isAscii then
      if ranges.all fun r => ranges.length = 1 ∧ r.1 = r.2 then 32 else 32 + 32 + 8 * ranges.length
    else
      let seqs := ByteRange.ofSet set
      match direction with
      | .forward =>
        if seqs.length = 1 then
          32 * (seqs.headD []).length
        else
          let states := ((mergedStates 5 seqs).run {}).2
          32 + states.fold (fun total edges _ => total + 32 + 8 * edges.length) 0
      | .backward => 64 + 4 * seqs.length + 32 * treeStates [] seqs

/-- The bytes of a repetition whose body takes `body` bytes. A repetition of what takes no
character is done at most once. -/
def loopSize (body : Nat) (nullable weightless : Bool) (least : Nat) (most : Option Nat) : Nat :=
  let least := if weightless then min least 1 else least
  let most := if weightless then some ((most.map (min · 1)).getD 1) else most
  match most with
  | some most =>
    if most = 0 then 32
    else if least = 0 ∧ most = 1 then body + 72
    else (if least = 0 then 32 else body * least) +
      (if least = most then 0 else 32 + (most - least) * (body + 40))
  | none => match least with
    | 0 => if nullable then body + 112 else body + 40
    | n => body * n + 40

def size (weigh : SetSize) (direction : Direction) : Regex → Nat
  | empty => 32
  | one set => weigh direction set
  | anchor _ => 32
  | seq r s => r.size weigh direction + s.size weigh direction
  | alt r s => r.size weigh direction + s.size weigh direction + 36
  | run set least most _ => loopSize (weigh direction set) false false least most
  | optional r _ => r.size weigh direction + 72
  | loop r least most _ =>
    loopSize (r.size weigh direction) r.nullable r.weightless least most
  | group _ r => r.size weigh direction + (if direction = .forward then 64 else 0)

def sizeLimit : Nat := 10 * 1024 * 1024

/-- True if the automata of both directions are within the limit. The rough bound settles most
expressions at once. -/
def isWithinLimit (r : Regex) : Bool :=
  let fits (weigh : SetSize) : Bool :=
    [Direction.forward, .backward].all fun d => decide (r.size weigh d + 256 ≤ sizeLimit)
  fits roughSetSize || fits exactSetSize

end UrlRouting.Regex
