import UrlRouting.Yaml.Token

/-! Nodes of YAML texts: scalars, sequences and mappings, and references to nodes that carry an
anchor. -/

namespace UrlRouting.Yaml

inductive Node where
  | scalar (text : String) (plain : Bool) (tag : Option String)
  | sequence (items : List Node)
  | mapping (entries : List (Node × Node))
  | reference (id : Nat)
deriving Repr, Inhabited

namespace Node

def blank (tag : Option String) : Node := scalar "" true tag

/-- What reading nodes has to keep: the tag handles of the document, the number that each anchor
name stands for at present, and the nodes of the numbers. -/
structure Anchors where
  handles : List (String × String)
  ids : List (String × Nat)
  nodes : List (Nat × Node)
deriving Inhabited

def standardHandles : List (String × String) := [("!", "!"), ("!!", "tag:yaml.org,2002:")]

def Anchors.start : Anchors := ⟨standardHandles, [], []⟩

def Anchors.define (a : Anchors) (name : String) : Nat × Anchors :=
  let id := a.ids.length
  (id, { a with ids := (name, id) :: a.ids.filter fun e => e.1 != name })

structure Properties where
  anchor : Option String
  tag : Option String
deriving Inhabited

def tagOf? (a : Anchors) (handle suffix : String) : Option String :=
  if handle = "" then some suffix
  else (a.handles.lookup handle).map fun base => base ++ suffix

def properties? (a : Anchors) : List Token → Option (Properties × List Token)
  | .anchor name :: .tag handle suffix :: rest =>
    (tagOf? a handle suffix).map fun t => (⟨some name, some t⟩, rest)
  | .anchor name :: rest => some (⟨some name, none⟩, rest)
  | .tag handle suffix :: .anchor name :: rest =>
    (tagOf? a handle suffix).map fun t => (⟨some name, some t⟩, rest)
  | .tag handle suffix :: rest =>
    (tagOf? a handle suffix).map fun t => (⟨none, some t⟩, rest)
  | tokens => some (⟨none, none⟩, tokens)

/-- The tag of a scalar. A lone exclamation mark says no more than that there is none. -/
def Properties.scalarTag (p : Properties) : Option String :=
  if p.tag = some "!" then none else p.tag

inductive Position where
  | blockEntry
  | indentlessEntry
  | blockKey
  | flowEntry
  | flowKey
  | flowPairKey
  | flowPairValue
deriving DecidableEq, Repr

def Position.lacksNode (p : Position) (tokens : List Token) : Bool :=
  match tokens with
  | [] => false
  | t :: _ =>
    match p with
    | blockEntry => t == .entry || t == .blockEnd
    | indentlessEntry => t == .entry || t == .key || t == .value || t == .blockEnd
    | blockKey => t == .key || t == .value || t == .blockEnd
    | flowEntry => t == .comma || t == .closeMapping
    | flowKey => t == .value || t == .comma || t == .closeMapping
    | flowPairKey => t == .value || t == .comma || t == .closeSequence
    | flowPairValue => t == .comma || t == .closeSequence

abbrev Reading (α : Type) := α × Anchors × List Token

mutual

/-- Reads a node. `block` allows blocks, and `indentless` a sequence at the column of its key. -/
def node? (block indentless : Bool) : Nat → Anchors → List Token → Option (Reading Node)
  | 0, _, _ => none
  | fuel + 1, a, tokens =>
    match tokens with
    | .reference name :: rest => (a.ids.lookup name).map fun id => (reference id, a, rest)
    | _ => do
      let (p, rest) ← properties? a tokens
      match p.anchor with
      | none => content? block indentless p fuel a rest
      | some name => do
        let (id, a) := a.define name
        let (n, a, rest) ← content? block indentless p fuel a rest
        some (n, { a with nodes := (id, n) :: a.nodes }, rest)

def content? (block indentless : Bool) (p : Properties) :
    Nat → Anchors → List Token → Option (Reading Node)
  | 0, _, _ => none
  | fuel + 1, a, tokens =>
    let lacking : Option (Reading Node) :=
      if p.anchor.isSome || p.tag.isSome then some (Node.blank p.tag, a, tokens) else none
    match tokens with
    | .entry :: _ =>
      if indentless then do
        let (items, a, rest) ← indentlessItems? fuel a tokens
        some (sequence items, a, rest)
      else lacking
    | .scalar text plain :: rest => some (scalar text plain p.scalarTag, a, rest)
    | .openSequence :: rest => do
      let (items, a, rest) ← flowItems? true fuel a rest
      some (sequence items, a, rest)
    | .openMapping :: rest => do
      let (entries, a, rest) ← flowEntries? true fuel a rest
      some (mapping entries, a, rest)
    | .blockSequence :: rest =>
      if block then do
        let (items, a, rest) ← blockItems? fuel a rest
        some (sequence items, a, rest)
      else lacking
    | .blockMapping :: rest =>
      if block then do
        let (entries, a, rest) ← blockEntries? fuel a rest
        some (mapping entries, a, rest)
      else lacking
    | _ => lacking

def nodeAt? (p : Position) (block indentless : Bool) : Nat → Anchors → List Token → Option (Reading Node)
  | 0, _, _ => none
  | fuel + 1, a, tokens =>
    if p.lacksNode tokens then some (Node.blank none, a, tokens)
    else node? block indentless fuel a tokens

def blockItems? : Nat → Anchors → List Token → Option (Reading (List Node))
  | 0, _, _ => none
  | fuel + 1, a, tokens =>
    match tokens with
    | .entry :: rest => do
      let (n, a, rest) ← nodeAt? .blockEntry true false fuel a rest
      let (more, a, rest) ← blockItems? fuel a rest
      some (n :: more, a, rest)
    | .blockEnd :: rest => some ([], a, rest)
    | _ => none

def indentlessItems? : Nat → Anchors → List Token → Option (Reading (List Node))
  | 0, _, _ => none
  | fuel + 1, a, tokens =>
    match tokens with
    | .entry :: rest => do
      let (n, a, rest) ← nodeAt? .indentlessEntry true false fuel a rest
      let (more, a, rest) ← indentlessItems? fuel a rest
      some (n :: more, a, rest)
    | _ => some ([], a, tokens)

def blockEntries? : Nat → Anchors → List Token → Option (Reading (List (Node × Node)))
  | 0, _, _ => none
  | fuel + 1, a, tokens =>
    match tokens with
    | .blockEnd :: rest => some ([], a, rest)
    | .key :: rest => do
      let (k, a, rest) ← nodeAt? .blockKey true true fuel a rest
      blockValue? k fuel a rest
    | _ => none

def blockValue? (k : Node) : Nat → Anchors → List Token → Option (Reading (List (Node × Node)))
  | 0, _, _ => none
  | fuel + 1, a, tokens => do
    let (v, a, rest) ← (match tokens with
      | .value :: rest => nodeAt? .blockKey true true fuel a rest
      | _ => some (Node.blank none, a, tokens))
    let (more, a, rest) ← blockEntries? fuel a rest
    some ((k, v) :: more, a, rest)

def flowItems? (first : Bool) : Nat → Anchors → List Token → Option (Reading (List Node))
  | 0, _, _ => none
  | fuel + 1, a, tokens =>
    match tokens with
    | .closeSequence :: rest => some ([], a, rest)
    | _ => do
      let rest ← (if first then some tokens else
        match tokens with
        | .comma :: rest => some rest
        | _ => none)
      match rest with
      | .closeSequence :: rest => some ([], a, rest)
      | .key :: rest => do
        let (n, a, rest) ← flowPair? fuel a rest
        let (more, a, rest) ← flowItems? false fuel a rest
        some (n :: more, a, rest)
      | rest => do
        let (n, a, rest) ← node? false false fuel a rest
        let (more, a, rest) ← flowItems? false fuel a rest
        some (n :: more, a, rest)

/-- Reads a mapping of one pair, which needs no braces in a sequence. A key that is missing takes the
token in its place with it. -/
def flowPair? : Nat → Anchors → List Token → Option (Reading Node)
  | 0, _, _ => none
  | fuel + 1, a, tokens => do
    let (k, a, rest) ← (if Position.flowPairKey.lacksNode tokens then
      some (Node.blank none, a, tokens.drop 1) else node? false false fuel a tokens)
    let (v, a, rest) ← (match rest with
      | .value :: rest => nodeAt? .flowPairValue false false fuel a rest
      | _ => some (Node.blank none, a, rest))
    some (mapping [(k, v)], a, rest)

def flowEntries? (first : Bool) : Nat → Anchors → List Token → Option (Reading (List (Node × Node)))
  | 0, _, _ => none
  | fuel + 1, a, tokens =>
    match tokens with
    | .closeMapping :: rest => some ([], a, rest)
    | _ => do
      let rest ← (if first then some tokens else
        match tokens with
        | .comma :: rest => some rest
        | _ => none)
      match rest with
      | .closeMapping :: rest => some ([], a, rest)
      | .key :: rest => do
        let (k, a, rest) ← nodeAt? .flowKey false false fuel a rest
        let (v, a, rest) ← (match rest with
          | .value :: rest => nodeAt? .flowEntry false false fuel a rest
          | _ => some (Node.blank none, a, rest))
        let (more, a, rest) ← flowEntries? false fuel a rest
        some ((k, v) :: more, a, rest)
      | rest => do
        let (k, a, rest) ← node? false false fuel a rest
        let (more, a, rest) ← flowEntries? false fuel a rest
        some ((k, Node.blank none) :: more, a, rest)

end

/-- Directives at the front of a document: at most one version, of the first kind, and handles each
of which is given once. -/
def directives? (version : Bool) (handles : List (String × String)) :
    List Token → Option (List (String × String) × Bool × List Token)
  | .version major minor :: rest =>
    if version ∨ major ≠ 1 ∨ (minor ≠ 1 ∧ minor ≠ 2) then none
    else (directives? true handles rest).map fun r => (r.1, true, r.2.2)
  | .tagHandle handle base :: rest =>
    if (handles.lookup handle).isSome then none
    else (directives? version (handles ++ [(handle, base)]) rest).map fun r => (r.1, true, r.2.2)
  | tokens => some (handles, false, tokens)

def documentNode? (a : Anchors) (tokens : List Token) : Option (Reading Node) :=
  match tokens with
  | [] => some (Node.blank none, a, [])
  | .version _ _ :: _ => some (Node.blank none, a, tokens)
  | .tagHandle _ _ :: _ => some (Node.blank none, a, tokens)
  | .documentStart :: _ => some (Node.blank none, a, tokens)
  | .documentEnd :: _ => some (Node.blank none, a, tokens)
  | _ => node? true false (6 * tokens.length + 6) a tokens

def document? (tokens : List Token) : Option (Option (Node × List (Nat × Node))) := do
  if tokens.isEmpty then some none
  else
    let (given, any, rest) ← directives? false [] tokens
    let handles := given ++ standardHandles.filter fun h => (given.lookup h.1).isNone
    let start : Anchors := ⟨handles, [], []⟩
    let (n, a, rest) ← (match rest with
      | .documentStart :: rest => documentNode? start rest
      | _ => if any then none else node? true false (6 * rest.length + 6) start rest)
    match rest.dropWhile (· == .documentEnd) with
    | [] => some (some (n, a.nodes))
    | _ => none

end Node

end UrlRouting.Yaml
