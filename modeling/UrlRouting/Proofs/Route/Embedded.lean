import UrlRouting.Proofs.Regex.Within
import UrlRouting.Proofs.Route.Checks
import UrlRouting.Proofs.Route.Language

/-! A validator in the texts of the matchers. A fragment that is an expression between parentheses is
that expression in the check of its slot and in the slot of the strict matcher, whether the slot has to
be there or not. -/

namespace UrlRouting.Matcher.Strict
open Regex Slash Segment

/-- The start of the text, and characters. -/
def frontNodes (front : List Char) : List Node := Node.leaf (.anchor .textStart) :: front.map Node.literal

/-- The expression of a slot behind characters and a slash. -/
def requiredNodes (front : List Char) (slot : Node) : List Node :=
  frontNodes front ++ [Node.literal '/'] ++ [slot] ++ [Node.leaf (.anchor .textEnd)]

/-- The expression of a slot that may be left out with its slash. -/
def optionalNodes (front : List Char) (slot : Node) : List Node :=
  frontNodes front ++ [(Node.concat [Node.literal '/', slot]).enclosed.repeated 0 (some 1) true] ++
    (if front = [] then [(Node.literal '/').repeated 0 (some 1) true] else []) ++
    [Node.leaf (.anchor .textEnd)]

variable {validators : Validators} {literals : List String} {kind : SlotKind} {name : String}
  {x : List Char} {n whole : Node}

def literalSegments (literals : List String) : List Segment := literals.map fun text => single (.literal text)

/-- The path of the literals as it is matched. -/
def frontOf (literals : List String) : List Char := path (literals.map literalText)

theorem segmentNodes_literals (literals : List String) :
    (literalSegments literals).flatMap Shape.segmentNodes = (frontOf literals).map Node.literal := by
  induction literals with
  | nil => rfl
  | cons text literals ih =>
    have first : Shape.segmentNodes (single (.literal text)) =
        ('/' :: literalText text).map Node.literal := by
      rw [Shape.segmentNodes, single, List.flatMap_singleton]
      rfl
    rw [literalSegments, List.map_cons, List.flatMap_cons, first, frontOf, List.map_cons, List.map_cons,
      path_cons, ← List.cons_append, List.map_append]
    exact congrArg _ ih

theorem readable_literals {s : Segment} (member : s ∈ literalSegments literals) :
    ∀ p ∈ s.parts, p.Readable validators := by
  intro p inside
  obtain ⟨text, _, rfl⟩ := List.mem_map.1 member
  obtain rfl : p = .literal text := List.mem_singleton.1 inside
  trivial

theorem written_front (validators : Validators) (literals : List String) :
    Written ('^' :: (literalSegments literals).flatMap (segment validators))
      (frontNodes (frontOf literals)) := by
  have segments : Written ((literalSegments literals).flatMap (segment validators))
      ((literalSegments literals).flatMap Shape.segmentNodes) :=
    written_flatMap (fun s member => written_segment (readable_literals member)) fun s _ => head?_segment s
  rw [segmentNodes_literals] at segments
  exact written_textStart.append segments (head?_flatMap fun s _ => head?_segment s)

/-- The sign of a named group. -/
def nameSign (name : String) : List Char := '?' :: 'P' :: '<' :: (name.toList ++ ['>'])

theorem text_required (validators : Validators) (literals : List String) (kind : SlotKind) (name : String) :
    text validators (literalSegments literals ++ [single (.slot kind name)]) [] =
      '^' :: (literalSegments literals).flatMap (segment validators) ++ ['/'] ++ '(' :: nameSign name ++
        (slot validators kind name ++ ')' :: ['$']) := by
  simp [text, tail, segment, part, single, nameSign]

theorem text_optional (validators : Validators) (literals : List String) (kind : SlotKind) (name : String) :
    text validators (literalSegments literals) [single (.slot kind name)] =
      '^' :: (literalSegments literals).flatMap (segment validators) ++ ['(', '?', ':'] ++ ['/'] ++
        '(' :: nameSign name ++ (slot validators kind name ++ ')' :: ([')', '?'] ++
          (if (literalSegments literals).isEmpty then ['/', '?'] else []) ++ ['$'])) := by
  simp [text, tail, segment, part, single, nameSign]

theorem closing_of_marks {after : List Char} (marks : after.all [')', '?', '/', '$'].contains = true) :
    Closing (')' :: after) := by
  refine ⟨⟨after, rfl⟩, List.forall_mem_cons.2 ⟨by decide, fun c member => ?_⟩⟩
  exact List.contains_iff_mem.1 (List.all_eq_true.1 marks c member)

theorem written_slash : Written ['/'] [Node.literal '/'] := written_plain (by decide)

theorem reading_named (named : Pattern.isName name.toList = true) {st : ParseState}
    (standard : st.options = .standard) :
    Reading st ('(' :: nameSign name) (st.opened (.capture (some name))) :=
  Reading.opening standard (opening?_slot named)

section Parsing

variable (named : Pattern.isName name.toList = true) (complete : Node.parse? (slot validators kind name) = some n)
  (head : (slot validators kind name).head? ≠ some '?')
include named complete head

theorem parse?_required
    (parsed : Node.parse? (text validators (literalSegments literals ++ [single (.slot kind name)]) []) =
      some whole) : whole = Node.concat (requiredNodes (frontOf literals) (Node.group (some name) n)) := by
  have front := (written_front validators literals).append written_slash (by decide)
  have opens := (front .initial rfl).append (reading_named named rfl) (by simp)
  have closes := written_textEnd
    ((ParseState.initial.pushed (frontNodes (frontOf literals) ++ [Node.literal '/'])).pushed
      [(Wrap.capture (some name)).whole n]) rfl
  rw [text_required] at parsed
  obtain ⟨_, closed⟩ := parse?_within complete head (closing_of_marks rfl) opens closes parsed
  rw [ParseState.pushed_pushed, ParseState.pushed_pushed, close_pushed] at closed
  rw [requiredNodes, List.append_assoc]
  exact closed.symm

theorem parse?_optional
    (parsed : Node.parse? (text validators (literalSegments literals) [single (.slot kind name)]) =
      some whole) : whole = Node.concat (optionalNodes (frontOf literals) (Node.group (some name) n)) := by
  have empty : (literalSegments literals).isEmpty = true ↔ frontOf literals = [] := by
    rw [List.isEmpty_iff, literalSegments, List.map_eq_nil_iff, frontOf, path_eq_nil_iff, List.map_eq_nil_iff]
  have marks : ([')', '?'] ++ (if (literalSegments literals).isEmpty then ['/', '?'] else []) ++
      ['$']).all [')', '?', '/', '$'].contains = true := by
    split <;> rfl
  have front := written_front validators literals .initial rfl
  have group := front.append (Reading.opening (x := ['?', ':']) rfl fun _ => rfl) (by decide)
  have slash := group.append (written_slash _ rfl) (by decide)
  have opens := slash.append (reading_named named rfl) (by simp)
  have last : Written (if (literalSegments literals).isEmpty then ['/', '?'] else [])
      (if frontOf literals = [] then [(Node.literal '/').repeated 0 (some 1) true] else []) := by
    simp only [empty]
    split
    · exact written_repeated (x := []) step?_questionMark rfl (by decide) fun _ => rfl
    · exact written_nil
  have optional := (Reading.closeOptional · ([Node.literal '/'] ++ [(Wrap.capture (some name)).whole n]))
    (rfl : (ParseState.initial.pushed (frontNodes (frontOf literals))).options = .standard)
  have closes := (optional.append (last _ rfl) (by split <;> decide)).append (written_textEnd _ rfl) (by decide)
  rw [text_optional] at parsed
  rw [← ParseState.pushed_pushed] at closes
  obtain ⟨_, closed⟩ := parse?_within complete head (closing_of_marks marks) opens closes parsed
  rw [ParseState.pushed_pushed, ParseState.pushed_pushed, ParseState.pushed_pushed, close_pushed] at closed
  rw [optionalNodes, List.append_assoc, List.append_assoc]
  exact closed.symm

end Parsing

theorem parse?_check (complete : Node.parse? x = some n) (head : x.head? ≠ some '?')
    (parsed : Node.parse? ("^(?:".toList ++ (x ++ ')' :: ['$'])) = some whole) :
    whole = Node.concat [Node.leaf (.anchor .textStart), n.enclosed, Node.leaf (.anchor .textEnd)] := by
  have opens := (written_textStart .initial rfl).append
    (Reading.opening (x := ['?', ':']) rfl fun _ => rfl) (by decide)
  have closes := written_textEnd ((ParseState.initial.pushed [Node.leaf (.anchor .textStart)]).pushed
    [Wrap.plain.whole n]) rfl
  obtain ⟨_, closed⟩ := parse?_within complete head (closing_of_marks rfl) opens closes parsed
  rw [ParseState.pushed_pushed, ParseState.pushed_pushed, close_pushed] at closed
  exact closed.symm

end UrlRouting.Matcher.Strict
