import UrlRouting.Regex.Size

/-! Expressions as they are written. What is written has a depth of nesting, counting every
repetition, group, bracket and sequence of two or more parts, and a matcher is refused when the
depth is more than 250. -/

namespace UrlRouting.Regex

/-- A written expression and its depth. A `bare` one is a setting of options, which takes no part
in matching and cannot be repeated. -/
structure Node where
  regex : Regex
  depth : Nat
  bare : Bool
deriving DecidableEq, Repr, Inhabited

namespace Node

def leaf (r : Regex) : Node := ⟨r, 0, false⟩

def setting : Node := ⟨.empty, 0, true⟩

def literal (c : Char) : Node := leaf (.one (CharSet.single c))

def deepest (ns : List Node) : Nat := ns.foldl (fun d n => max d n.depth) 0

def concat : List Node → Node
  | [n] => n
  | [] => leaf .empty
  | ns => ⟨Regex.chain (ns.map (·.regex)), deepest ns + 1, false⟩

def choice : List Regex → Regex
  | [] => .empty
  | [r] => r
  | r :: rest => .alt r (choice rest)

def alternation : List Node → Node
  | [n] => n
  | ns => ⟨choice (ns.map (·.regex)), deepest ns + 1, false⟩

def group (name : Option String) (n : Node) : Node := ⟨.group name n.regex, n.depth + 1, false⟩

def enclosed (n : Node) : Node := ⟨n.regex, n.depth + 1, false⟩

def repeated (n : Node) (least : Nat) (most : Option Nat) (greedy : Bool) : Node :=
  ⟨n.regex.repeated least most greedy, n.depth + 1, false⟩

def depthLimit : Nat := 250

/-- The expression, if it is neither too deep nor too large and no two groups share a name. -/
def compile? (n : Node) : Option Regex :=
  if n.depth ≤ depthLimit ∧ n.regex.groupNames.Nodup ∧ n.regex.isWithinLimit then some n.regex
  else none

end Node

end UrlRouting.Regex
