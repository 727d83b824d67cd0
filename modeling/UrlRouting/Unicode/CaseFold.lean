import UrlRouting.Unicode.RangeCode
import UrlRouting.Unicode.CaseOrbit

/-! Letter case. Two characters are the same but for case when one orbit holds both. -/

namespace UrlRouting.Unicode

/-- Splits coded numbers into orbits; `least` is the least member of the orbit before. -/
def orbitsFrom (least : Nat) : Nat → List Nat → List (List Nat)
  | fuel + 1, size :: gap :: rest =>
    let first := least + gap
    let further := (rest.take (size - 1)).foldl (fun (members : List Nat) step =>
      (members.headD first + step) :: members) []
    (first :: further.reverse) :: orbitsFrom first fuel (rest.drop (size - 1))
  | _, _ => []

def caseOrbits : List (List Nat) :=
  let code := coded caseOrbitCode
  orbitsFrom 0 code.length code

def inRanges (rs : List (Nat × Nat)) (n : Nat) : Bool :=
  rs.any fun r => decide (r.1 ≤ n) && decide (n ≤ r.2)

def foldCase (s : CharSet) : CharSet :=
  let reached := caseOrbits.filter fun orbit => orbit.any (inRanges s.ranges)
  if reached.isEmpty then s
  else CharSet.ofRanges (s.ranges ++ reached.flatMap fun orbit => orbit.map fun n => (n, n))

def foldAsciiCase (s : CharSet) : CharSet :=
  let letters := (List.range 26).flatMap fun i =>
    let upper := 65 + i
    let lower := 97 + i
    if inRanges s.ranges upper || inRanges s.ranges lower then [(upper, upper), (lower, lower)]
    else []
  if letters.isEmpty then s else CharSet.ofRanges (s.ranges ++ letters)

end UrlRouting.Unicode
