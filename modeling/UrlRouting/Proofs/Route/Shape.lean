import Mathlib.Data.List.Forall2
import Mathlib.Data.List.TakeWhile
import Mathlib.Order.Bounds.Basic
import UrlRouting.Proofs.Regex.Takes
import UrlRouting.Proofs.Route.Compile

/-! The paths that have the shape of a route. The matcher of the shape is an expression with nested
optional groups; what it accepts is said here without it, as the paths that the first segments of
the pattern cover, each part standing for a text of its own. -/

namespace UrlRouting
open Regex

/-- Whether a text may stand where a part does: the decoded text of a literal itself, in a simple slot
some text without a slash, in a wildcard slot some text on one line. -/
def Part.Fits : Part → List Char → Prop
  | .literal text, x => x = Matcher.literalText text
  | .slot .simple _, x => x ≠ [] ∧ '/' ∉ x
  | .slot .wildcard _, x => x ≠ [] ∧ '\n' ∉ x

instance : (p : Part) → (x : List Char) → Decidable (p.Fits x)
  | .literal text, x => inferInstanceAs (Decidable (x = Matcher.literalText text))
  | .slot .simple _, x => inferInstanceAs (Decidable (x ≠ [] ∧ '/' ∉ x))
  | .slot .wildcard _, x => inferInstanceAs (Decidable (x ≠ [] ∧ '\n' ∉ x))

/-- The slots among parts with the texts that stand there. -/
def Part.taken : List Part → List (List Char) → List (String × List Char)
  | .literal _ :: parts, _ :: texts => taken parts texts
  | .slot _ name :: parts, x :: texts => (name, x) :: taken parts texts
  | _, _ => []

namespace Segment

/-- The texts stand for the parts of the segment one by one. -/
def Fits (s : Segment) (texts : List (List Char)) : Prop := List.Forall₂ Part.Fits s.parts texts

instance (s : Segment) (texts : List (List Char)) : Decidable (s.Fits texts) :=
  inferInstanceAs (Decidable (List.Forall₂ Part.Fits s.parts texts))

/-- The slots of segments with the texts that stand there, in the order of the pattern. -/
def taken (segments : List Segment) (texts : List (List (List Char))) : List (String × List Char) :=
  (segments.zip texts).flatMap fun p => Part.taken p.1.parts p.2

/-- The path of texts for segments: each segment behind a slash. -/
def laidOut (texts : List (List (List Char))) : List Char := texts.flatMap fun t => '/' :: t.flatten

/-- The texts stand for the first segments, at least so many of them, and make up the path; where
none of the segments has to be there, a slash may follow. -/
structure Covers (segments : List Segment) (least : Nat) (texts : List (List (List Char)))
    (path : List Char) : Prop where
  enough : least ≤ texts.length
  fits : List.Forall₂ Fits (segments.take texts.length) texts
  path_eq : path = laidOut texts ∨ least = 0 ∧ path = laidOut texts ++ ['/']

end Segment

namespace Matcher.Shape

variable {c : Cursor} {x : List Char} {k : List (String × List Char)}

/-- The nodes one after the other take a stretch of text. -/
def TakesAll (ns : List Node) (c : Cursor) (x : List Char) (k : List (String × List Char)) : Prop :=
  Takes (chain (ns.map (·.regex))) c x k

theorem takesAll_nil : TakesAll [] c x k ↔ x = [] ∧ k = [] := takes_chain_nil

theorem takesAll_append (ns ms : List Node) : TakesAll (ns ++ ms) c x k ↔
    ∃ y z l m, x = y ++ z ∧ k = m ++ l ∧ TakesAll ns c y l ∧ TakesAll ms (c.past y) z m := by
  rw [TakesAll, List.map_append]
  exact takes_chain_append _ _

theorem takesAll_cons (n : Node) (ns : List Node) : TakesAll (n :: ns) c x k ↔
    ∃ y z l m, x = y ++ z ∧ k = m ++ l ∧ Takes n.regex c y l ∧ TakesAll ns (c.past y) z m :=
  takes_chain_cons _ _

theorem takesAll_singleton (n : Node) : TakesAll [n] c x k ↔ Takes n.regex c x k := Iff.rfl

theorem regex_concat (ns : List Node) : (Node.concat ns).regex = chain (ns.map (·.regex)) := by
  match ns with
  | [] => rfl
  | [n] => rfl
  | n :: m :: ns => rfl

theorem takes_literal (a : Char) :
    Takes (Node.literal a).regex c x k ↔ x = [a] ∧ x <+: c.rest ∧ k = [] := by
  rw [Node.literal, Node.leaf, takes_one]
  constructor
  · intro given
    obtain ⟨b, rfl, ahead, inside, rfl⟩ := given
    rw [CharSet.contains_single, decide_eq_true_eq] at inside
    exact ⟨by rw [inside], ahead, rfl⟩
  · intro given
    obtain ⟨rfl, ahead, rfl⟩ := given
    exact ⟨a, rfl, ahead, by rw [CharSet.contains_single, decide_eq_true rfl], rfl⟩

theorem takesAll_literals (text : List Char) :
    TakesAll (text.map Node.literal) c x k ↔ x = text ∧ x <+: c.rest ∧ k = [] := by
  induction text generalizing c x k with
  | nil =>
    rw [List.map_nil, takesAll_nil]
    constructor
    · intro given
      obtain ⟨rfl, rfl⟩ := given
      exact ⟨rfl, List.nil_prefix, rfl⟩
    · intro given
      obtain ⟨rfl, _, rfl⟩ := given
      exact ⟨rfl, rfl⟩
  | cons a text ih =>
    rw [List.map_cons, takesAll_cons]
    constructor
    · intro given
      obtain ⟨y, z, l, m, rfl, rfl, first, later⟩ := given
      obtain ⟨rfl, ahead, rfl⟩ := (takes_literal a).1 first
      obtain ⟨rfl, ahead_later, rfl⟩ := ih.1 later
      exact ⟨rfl, Cursor.prefix_append ahead ahead_later, rfl⟩
    · intro given
      obtain ⟨rfl, ahead, rfl⟩ := given
      obtain ⟨first, later⟩ := Cursor.prefix_split (x := [a]) (y := text) ahead
      exact ⟨[a], text, [], [], rfl, rfl, (takes_literal a).2 ⟨rfl, first, rfl⟩, ih.2 ⟨rfl, later, rfl⟩⟩

theorem takes_slotNode (kind : SlotKind) (name : String) : Takes (slotNode kind).regex c x k ↔
    x <+: c.rest ∧ Part.Fits (.slot kind name) x ∧ k = [] := by
  have present : 1 ≤ x.length ↔ x ≠ [] := List.length_pos_iff
  have allowed (a : Char) : (∀ b ∈ x, (CharSet.except a).contains b = true) ↔ a ∉ x := by
    simp only [CharSet.contains_except, Bool.not_eq_true', decide_eq_false_iff_not]
    exact ⟨fun all member => all a member rfl, fun missing b member same => missing (same ▸ member)⟩
  cases kind <;>
    simp only [slotNode, Node.leaf, Node.repeated, Regex.repeated, takes_run, Part.Fits, allowed,
      present, reduceCtorEq, false_implies, implies_true, true_and, and_assoc, and_left_comm]

theorem takesAll_partNodes (p : Part) :
    TakesAll (partNodes p) c x k ↔ x <+: c.rest ∧ p.Fits x ∧ k = Part.taken [p] [x] := by
  cases p with
  | literal text =>
    rw [partNodes, takesAll_literals]
    exact ⟨fun ⟨same, ahead, caught⟩ => ⟨ahead, same, caught⟩, fun ⟨ahead, same, caught⟩ => ⟨same, ahead, caught⟩⟩
  | slot kind name =>
    rw [partNodes, takesAll_singleton, Node.group, takes_group]
    constructor
    · intro given
      obtain ⟨l, rfl, body⟩ := given
      obtain ⟨ahead, fits, rfl⟩ := (takes_slotNode kind name).1 body
      exact ⟨ahead, fits, rfl⟩
    · intro given
      obtain ⟨ahead, fits, rfl⟩ := given
      exact ⟨[], rfl, (takes_slotNode kind name).2 ⟨ahead, fits, rfl⟩⟩

theorem taken_cons (p : Part) (ps : List Part) (x : List Char) (xs : List (List Char)) :
    Part.taken (p :: ps) (x :: xs) = Part.taken [p] [x] ++ Part.taken ps xs := by
  cases p <;> rfl

theorem reverse_taken_singleton (p : Part) (x : List Char) :
    (Part.taken [p] [x]).reverse = Part.taken [p] [x] := by
  cases p <;> rfl

theorem takesAll_parts (ps : List Part) : TakesAll (ps.flatMap partNodes) c x k ↔
    x <+: c.rest ∧ ∃ texts, List.Forall₂ Part.Fits ps texts ∧ x = texts.flatten ∧
      k = (Part.taken ps texts).reverse := by
  induction ps generalizing c x k with
  | nil =>
    rw [List.flatMap_nil, takesAll_nil]
    constructor
    · intro given
      obtain ⟨rfl, rfl⟩ := given
      exact ⟨List.nil_prefix, [], .nil, rfl, rfl⟩
    · intro given
      obtain ⟨_, texts, fits, rfl, rfl⟩ := given
      cases fits
      exact ⟨rfl, rfl⟩
  | cons p ps ih =>
    rw [List.flatMap_cons, takesAll_append]
    constructor
    · intro given
      obtain ⟨y, z, l, m, rfl, rfl, first, later⟩ := given
      obtain ⟨ahead, fits, rfl⟩ := (takesAll_partNodes p).1 first
      obtain ⟨ahead_later, texts, fits_later, rfl, rfl⟩ := ih.1 later
      refine ⟨Cursor.prefix_append ahead ahead_later, y :: texts, .cons fits fits_later, rfl, ?_⟩
      rw [taken_cons p ps, List.reverse_append, reverse_taken_singleton]
    · intro given
      obtain ⟨ahead, texts, fits, rfl, rfl⟩ := given
      cases fits with
      | @cons _ y _ texts fits fits_later =>
        obtain ⟨first, later⟩ := Cursor.prefix_split (List.flatten_cons ▸ ahead)
        refine ⟨y, texts.flatten, Part.taken [p] [y], (Part.taken ps texts).reverse, rfl, ?_,
          (takesAll_partNodes p).2 ⟨first, fits, rfl⟩, ih.2 ⟨later, texts, fits_later, rfl, rfl⟩⟩
        rw [taken_cons p ps, List.reverse_append, reverse_taken_singleton]

theorem takesAll_segmentNodes (s : Segment) : TakesAll (segmentNodes s) c x k ↔
    x <+: c.rest ∧ ∃ texts, s.Fits texts ∧ x = '/' :: texts.flatten ∧
      k = (Part.taken s.parts texts).reverse := by
  rw [segmentNodes, takesAll_cons]
  constructor
  · intro given
    obtain ⟨y, z, l, m, rfl, rfl, slash, later⟩ := given
    obtain ⟨rfl, ahead, rfl⟩ := (takes_literal '/').1 slash
    obtain ⟨ahead_later, texts, fits, rfl, rfl⟩ := (takesAll_parts s.parts).1 later
    exact ⟨Cursor.prefix_append ahead ahead_later, texts, fits, rfl, List.append_nil _⟩
  · intro given
    obtain ⟨ahead, texts, fits, rfl, rfl⟩ := given
    obtain ⟨first, later⟩ := Cursor.prefix_split (x := ['/']) (y := texts.flatten) ahead
    exact ⟨['/'], texts.flatten, [], _, rfl, (List.append_nil _).symm,
      (takes_literal '/').2 ⟨rfl, first, rfl⟩, (takesAll_parts s.parts).2 ⟨later, texts, fits, rfl, rfl⟩⟩

theorem laidOut_cons (t : List (List Char)) (texts : List (List (List Char))) :
    Segment.laidOut (t :: texts) = '/' :: t.flatten ++ Segment.laidOut texts := rfl

theorem reverse_taken_cons (s : Segment) (segments : List Segment) (t : List (List Char))
    (texts : List (List (List Char))) : (Segment.taken (s :: segments) (t :: texts)).reverse =
      (Segment.taken segments texts).reverse ++ (Part.taken s.parts t).reverse := by
  rw [← List.reverse_append]
  rfl

/-- The nodes take what texts for the segments make up, where these are as `allowed` has it. -/
def Reads (ns : List Node) (segments : List Segment) (allowed : List (List (List Char)) → Prop) : Prop :=
  ∀ {c : Cursor} {x : List Char} {k : List (String × List Char)}, TakesAll ns c x k ↔
    x <+: c.rest ∧ ∃ texts, allowed texts ∧ x = Segment.laidOut texts ∧
      k = (Segment.taken segments texts).reverse

theorem Reads.cons {ns : List Node} {segments : List Segment} {allowed : List (List (List Char)) → Prop}
    (reads : Reads ns segments allowed) (s : Segment) :
    Reads (segmentNodes s ++ ns) (s :: segments)
      fun texts => ∃ t later, texts = t :: later ∧ s.Fits t ∧ allowed later := by
  intro c x k
  rw [takesAll_append]
  constructor
  · intro given
    obtain ⟨y, z, l, m, rfl, rfl, first, later⟩ := given
    obtain ⟨ahead, t, fits, rfl, rfl⟩ := (takesAll_segmentNodes s).1 first
    obtain ⟨ahead_later, texts, fits_later, rfl, rfl⟩ := reads.1 later
    exact ⟨Cursor.prefix_append ahead ahead_later, t :: texts, ⟨t, texts, rfl, fits, fits_later⟩, rfl,
      (reverse_taken_cons s segments t texts).symm⟩
  · intro given
    obtain ⟨ahead, _, ⟨t, texts, rfl, fits, fits_later⟩, rfl, rfl⟩ := given
    rw [laidOut_cons] at ahead
    obtain ⟨first, later⟩ := Cursor.prefix_split ahead
    exact ⟨_, _, _, _, laidOut_cons t texts, reverse_taken_cons s segments t texts,
      (takesAll_segmentNodes s).2 ⟨first, t, fits, rfl, rfl⟩,
      reads.2 ⟨later, texts, fits_later, rfl, rfl⟩⟩

/-- The nested groups of the tail leave out any number of its segments from the last on. -/
theorem reads_tailNodes (tail : List Segment) :
    Reads (tailNodes tail) tail fun texts => List.Forall₂ Segment.Fits (tail.take texts.length) texts := by
  induction tail with
  | nil =>
    intro c x k
    rw [tailNodes, takesAll_nil]
    constructor
    · intro given
      obtain ⟨rfl, rfl⟩ := given
      exact ⟨List.nil_prefix, [], .nil, rfl, rfl⟩
    · intro given
      obtain ⟨_, texts, fits, rfl, rfl⟩ := given
      rw [List.take_nil] at fits
      cases fits
      exact ⟨rfl, rfl⟩
  | cons s tail ih =>
    intro c x k
    have group : TakesAll (tailNodes (s :: tail)) c x k ↔
        x = [] ∧ k = [] ∨ TakesAll (segmentNodes s ++ tailNodes tail) c x k := by
      rw [tailNodes, takesAll_singleton, Node.repeated, takes_repeated_once, Node.enclosed,
        regex_concat]
      rfl
    rw [group, ih.cons s]
    constructor
    · intro given
      rcases given with ⟨rfl, rfl⟩ | ⟨ahead, _, ⟨t, texts, rfl, fits, fits_later⟩, rfl, rfl⟩
      · exact ⟨List.nil_prefix, [], .nil, rfl, rfl⟩
      · exact ⟨ahead, t :: texts, .cons fits fits_later, rfl, rfl⟩
    · intro given
      obtain ⟨ahead, texts, fits, rfl, rfl⟩ := given
      match texts, fits with
      | [], _ => exact .inl ⟨rfl, rfl⟩
      | t :: texts, .cons fits fits_later =>
        exact .inr ⟨ahead, t :: texts, ⟨t, texts, rfl, fits, fits_later⟩, rfl, rfl⟩

theorem reads_segments (required tail : List Segment) :
    Reads (required.flatMap segmentNodes ++ tailNodes tail) (required ++ tail) fun texts =>
      required.length ≤ texts.length ∧
        List.Forall₂ Segment.Fits ((required ++ tail).take texts.length) texts := by
  induction required with
  | nil =>
    intro c x k
    rw [List.flatMap_nil, List.nil_append, List.nil_append, reads_tailNodes tail]
    simp only [List.length_nil, Nat.zero_le, true_and]
  | cons s required ih =>
    intro c x k
    rw [List.flatMap_cons, List.append_assoc, ih.cons s]
    constructor
    · intro given
      obtain ⟨ahead, _, ⟨t, texts, rfl, fits, enough, fits_later⟩, rfl, rfl⟩ := given
      exact ⟨ahead, t :: texts, ⟨Nat.succ_le_succ enough, .cons fits fits_later⟩, rfl, rfl⟩
    · intro given
      obtain ⟨ahead, texts, ⟨enough, fits⟩, rfl, rfl⟩ := given
      match texts, enough, fits with
      | t :: texts, enough, .cons fits fits_later =>
        exact ⟨ahead, t :: texts, ⟨t, texts, rfl, fits, Nat.le_of_succ_le_succ enough, fits_later⟩,
          rfl, rfl⟩

/-- Where no segment has to be there, a slash may be left after them. -/
theorem takesAll_lastSlash (required : List Segment) :
    TakesAll (if required.isEmpty then [(Node.literal '/').repeated 0 (some 1) true] else []) c x k ↔
      k = [] ∧ (x = [] ∨ required.length = 0 ∧ x = ['/'] ∧ x <+: c.rest) := by
  cases required with
  | nil =>
    rw [List.isEmpty_nil, if_pos rfl, takesAll_singleton, Node.repeated, takes_repeated_once,
      takes_literal]
    constructor
    · intro given
      rcases given with ⟨rfl, rfl⟩ | ⟨rfl, ahead, rfl⟩
      · exact ⟨rfl, .inl rfl⟩
      · exact ⟨rfl, .inr ⟨rfl, rfl, ahead⟩⟩
    · intro given
      rcases given with ⟨rfl, rfl | ⟨_, rfl, ahead⟩⟩
      · exact .inl ⟨rfl, rfl⟩
      · exact .inr ⟨rfl, ahead, rfl⟩
  | cons s required =>
    rw [List.isEmpty_cons, if_neg Bool.false_ne_true, takesAll_nil]
    constructor
    · intro given
      obtain ⟨rfl, rfl⟩ := given
      exact ⟨rfl, .inl rfl⟩
    · intro given
      rcases given with ⟨rfl, rfl | ⟨none, _⟩⟩
      · exact ⟨rfl, rfl⟩
      · cases none

theorem takes_textEnd : Takes (Node.leaf (.anchor .textEnd)).regex c x k ↔
    c.rest = [] ∧ x = [] ∧ k = [] := by
  rw [Node.leaf, takes_anchor, Anchor.holds, List.isEmpty_iff]

/-- What the whole expression takes is a whole path, as segments cover it. -/
theorem takes_node {required tail : List Segment} : Takes (node required tail).regex c x k ↔
    c.index = 0 ∧ x = c.rest ∧ ∃ texts,
      Segment.Covers (required ++ tail) required.length texts x ∧
        k = (Segment.taken (required ++ tail) texts).reverse := by
  have nodes : Takes (node required tail).regex c x k ↔
      c.index = 0 ∧ TakesAll (required.flatMap segmentNodes ++ tailNodes tail ++
        ((if required.isEmpty then [(Node.literal '/').repeated 0 (some 1) true] else []) ++
          [Node.leaf (.anchor .textEnd)])) c x k := by
    rw [node, regex_concat]
    simp only [List.append_assoc, List.cons_append]
    refine (takesAll_cons _ _).trans ?_
    simp only [Node.leaf, takes_anchor, Anchor.holds, beq_iff_eq]
    constructor
    · intro given
      obtain ⟨_, z, _, m, rfl, rfl, ⟨first, rfl, rfl⟩, later⟩ := given
      rw [List.append_nil]
      exact ⟨first, later⟩
    · intro given
      obtain ⟨first, takes⟩ := given
      exact ⟨[], x, [], k, rfl, (List.append_nil k).symm, ⟨first, rfl, rfl⟩, takes⟩
  rw [nodes, takesAll_append]
  constructor
  · intro given
    obtain ⟨first, y, _, l, _, rfl, rfl, segments, rest⟩ := given
    obtain ⟨ahead, texts, ⟨enough, fits⟩, rfl, rfl⟩ := (reads_segments required tail).1 segments
    obtain ⟨z, w, m, n, rfl, rfl, slash, last⟩ := (takesAll_append _ _).1 rest
    obtain ⟨rfl, form⟩ := (takesAll_lastSlash required).1 slash
    obtain ⟨stop, rfl, rfl⟩ := takes_textEnd.1 ((takesAll_singleton _).1 last)
    have slash_ahead : z <+: (c.past (Segment.laidOut texts)).rest := by
      rcases form with rfl | ⟨_, _, slash_ahead⟩
      · exact List.nil_prefix
      · exact slash_ahead
    have whole : Segment.laidOut texts ++ z <+: c.rest := Cursor.prefix_append ahead slash_ahead
    rw [Cursor.past_past, Cursor.rest_past_eq_nil whole] at stop
    rw [List.append_nil]
    refine ⟨first, stop, texts, ⟨enough, fits, ?_⟩, rfl⟩
    rcases form with rfl | ⟨none, rfl, _⟩
    · exact .inl (List.append_nil _)
    · exact .inr ⟨none, rfl⟩
  · intro given
    obtain ⟨first, rfl, texts, ⟨enough, fits, path_eq⟩, rfl⟩ := given
    obtain ⟨z, same, form⟩ : ∃ z, c.rest = Segment.laidOut texts ++ z ∧
        (z = [] ∨ required.length = 0 ∧ z = ['/']) := by
      rcases path_eq with same | ⟨none, same⟩
      · exact ⟨[], by rw [List.append_nil, same], .inl rfl⟩
      · exact ⟨['/'], same, .inr ⟨none, rfl⟩⟩
    have whole : Segment.laidOut texts ++ z <+: c.rest := same ▸ List.prefix_rfl
    obtain ⟨ahead, slash_ahead⟩ := Cursor.prefix_split whole
    have stop : ((c.past (Segment.laidOut texts)).past z).rest = [] := by
      rw [Cursor.past_past, Cursor.rest_past_eq_nil whole, same]
    refine ⟨first, Segment.laidOut texts, z, _, [], same, (List.nil_append _).symm,
      (reads_segments required tail).2 ⟨ahead, texts, ⟨enough, fits⟩, rfl, rfl⟩, ?_⟩
    refine (takesAll_append _ _).2 ⟨z, [], [], [], (List.append_nil z).symm, rfl,
      (takesAll_lastSlash required).2 ⟨rfl, ?_⟩, takes_textEnd.2 ⟨stop, rfl, rfl⟩⟩
    rcases form with rfl | ⟨none, rfl⟩
    · exact .inl rfl
    · exact .inr ⟨none, rfl, slash_ahead⟩

theorem straight_segmentNodes (s : Segment) : ∀ n ∈ segmentNodes s, n.regex.Straight := by
  intro n member
  rcases List.mem_cons.1 member with rfl | member
  · trivial
  · obtain ⟨p, _, member⟩ := List.mem_flatMap.1 member
    cases p with
    | literal text =>
      obtain ⟨a, _, rfl⟩ := List.mem_map.1 member
      trivial
    | slot kind name =>
      obtain rfl := List.mem_singleton.1 member
      cases kind <;> trivial

theorem straight_concat {ns : List Node} (straight : ∀ n ∈ ns, n.regex.Straight) :
    (Node.concat ns).regex.Straight := by
  rw [regex_concat]
  apply straight_chain
  intro r member
  obtain ⟨n, inside, rfl⟩ := List.mem_map.1 member
  exact straight n inside

theorem straight_tailNodes (tail : List Segment) : ∀ n ∈ tailNodes tail, n.regex.Straight := by
  induction tail with
  | nil => simp [tailNodes]
  | cons s tail ih =>
    intro n member
    obtain rfl := List.mem_singleton.1 member
    apply straight_repeated_once
    apply straight_concat
    intro n member
    rcases List.mem_append.1 member with member | member
    · exact straight_segmentNodes s n member
    · exact ih n member

theorem straight_node (required tail : List Segment) : (node required tail).regex.Straight := by
  apply straight_concat
  intro n member
  simp only [List.cons_append, List.mem_cons, List.mem_append, List.mem_flatMap] at member
  rcases member with rfl | ((⟨s, _, member⟩ | member) | member) | rfl | none
  · trivial
  · exact straight_segmentNodes s n member
  · exact straight_tailNodes tail n member
  · split at member
    · obtain rfl := List.mem_singleton.1 member
      exact straight_repeated_once (r := (Node.literal '/').regex) trivial true
    · simp at member
  · trivial
  · cases none

/-- A path that the matcher of a shape accepts is covered by the segments, with the texts that the
groups of the matcher hold. -/
theorem covers_of_search {required tail : List Segment} {path : List Char}
    {captures : List (String × List Char)}
    (found : (node required tail).regex.search path = some captures) :
    ∃ texts, Segment.Covers (required ++ tail) required.length texts path ∧
      captures = (Segment.taken (required ++ tail) texts).reverse := by
  obtain ⟨c, place, x, takes⟩ := takes_of_search (straight_node required tail) found
  obtain ⟨first, rfl, texts, covers, caught⟩ := takes_node.1 takes
  rw [Cursor.eq_start_of_index place first] at covers
  exact ⟨texts, covers, caught⟩

theorem isSome_search_of_covers {required tail : List Segment} {path : List Char}
    {texts : List (List (List Char))}
    (covers : Segment.Covers (required ++ tail) required.length texts path) :
    ((node required tail).regex.search path).isSome :=
  isSome_search (straight_node required tail) (takes_node.2 ⟨rfl, rfl, texts, covers, rfl⟩)

end Matcher.Shape

namespace Matcher

theorem splitTail_append (defaults : ParameterSet) (segments : List Segment) :
    (splitTail defaults segments).1 ++ (splitTail defaults segments).2 = segments :=
  List.take_append_drop _ _

theorem isOptional_iff {defaults : ParameterSet} {s : Segment} : isOptional defaults s = true ↔
    ∃ name, s.sole? = some name ∧ defaults.contains name = true :=
  Option.any_eq_true _ _

/-- Every segment that may be missing at the end is in the tail. -/
theorem isLeast_splitTail (defaults : ParameterSet) (segments : List Segment) :
    IsLeast {t | ∀ s ∈ segments.drop t, isOptional defaults s = true}
      (splitTail defaults segments).1.length := by
  have count : (splitTail defaults segments).1.length =
      segments.length - (segments.reverse.takeWhile (isOptional defaults)).length := by
    simp [splitTail]
  rw [count]
  constructor
  · intro s member
    have ending := List.prefix_iff_eq_take.1 (List.takeWhile_prefix (isOptional defaults) (l := segments.reverse))
    rw [List.take_reverse] at ending
    rw [← List.mem_reverse, ← ending] at member
    exact List.mem_takeWhile_imp member
  · intro t all
    have parts : segments.reverse = (segments.drop t).reverse ++ (segments.take t).reverse := by
      rw [← List.reverse_append, List.take_append_drop]
    have taken : (segments.reverse.takeWhile (isOptional defaults)).length =
        segments.length - t + ((segments.take t).reverse.takeWhile (isOptional defaults)).length := by
      rw [parts, List.takeWhile_append_of_pos fun s member => all s (List.mem_reverse.1 member),
        List.length_append, List.length_reverse, List.length_drop]
    omega

end Matcher

namespace Route

/-- The number of segments before the optional tail. -/
def tailStart (r : Route) : Nat := (Matcher.splitTail r.defaults r.segments).1.length

variable {d : Declaration} {r : Route}

theorem isLeast_tailStart (r : Route) :
    IsLeast {t | ∀ s ∈ r.segments.drop t, ∃ name, s.sole? = some name ∧ r.defaults.contains name = true}
      r.tailStart := by
  have least := Matcher.isLeast_splitTail r.defaults r.segments
  simp only [Matcher.isOptional_iff] at least
  exact least

theorem tailStart_le_length (r : Route) : r.tailStart ≤ r.segments.length :=
  (isLeast_tailStart r).2 fun s member => by
    rw [List.drop_length] at member
    cases member

theorem Compiled.matchesShape_iff (compiled : Compiled d r) (path : List Char) :
    r.matchesShape path = true ↔ ∃ texts, Segment.Covers r.segments r.tailStart texts path := by
  rw [matchesShape, Regex.isMatch, compiled.shape_eq]
  have whole := Matcher.splitTail_append r.defaults r.segments
  constructor
  · intro accepts
    obtain ⟨captures, found⟩ := Option.isSome_iff_exists.1 accepts
    obtain ⟨texts, covers, _⟩ := Matcher.Shape.covers_of_search found
    exact ⟨texts, whole ▸ covers⟩
  · intro given
    obtain ⟨texts, covers⟩ := given
    exact Matcher.Shape.isSome_search_of_covers (whole.symm ▸ covers)

/-- Without validators for its slots a route captures the texts of some way to cover the path. -/
theorem Compiled.covers_of_search (compiled : Compiled d r) (unvalidated : r.Unvalidated)
    {path : List Char} {captures : List (String × List Char)}
    (found : r.matchers.strict.search path = some captures) :
    ∃ texts, Segment.Covers r.segments r.tailStart texts path ∧
      captures = (Segment.taken r.segments texts).reverse := by
  rw [compiled.strict_eq unvalidated, compiled.shape_eq] at found
  obtain ⟨texts, covers, caught⟩ := Matcher.Shape.covers_of_search found
  rw [Matcher.splitTail_append] at covers caught
  exact ⟨texts, covers, caught⟩

theorem Compiled.isSome_capture (compiled : Compiled d r) (unvalidated : r.Unvalidated)
    (path : List Char) : (r.capture path).isSome = r.matchesShape path := by
  rw [capture, Option.isSome_map, compiled.strict_eq unvalidated]
  rfl

end Route

end UrlRouting
