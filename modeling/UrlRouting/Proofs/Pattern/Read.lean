import UrlRouting.Pattern
import UrlRouting.Proofs.Text.Pieces
import UrlRouting.Proofs.Traversal

/-! What reading a pattern guarantees: literals are there and hold no slash, slots have
names, and no two of them share one. -/

namespace UrlRouting.Pattern

theorem suffix_of_slotName {text name after : List Char} (found : slotName text = .ok (name, after)) :
    after <:+ text := by
  unfold slotName at found
  split at found
  next rest =>
    split at found
    next c tail closed =>
      cases found
      have inside := List.dropWhile_suffix (· != ')') (l := rest)
      rw [closed] at inside
      exact ((List.suffix_cons c after).trans inside).trans (List.suffix_cons _ _)
    next => cases found
  next =>
    cases found
    exact List.dropWhile_suffix _

theorem literal_of_addChar {c : Char} {parts : List Part} {t : String}
    (member : .literal t ∈ addChar c parts) :
    .literal t ∈ parts ∨ t.toList = [c] ∨ ∃ u, .literal u ∈ parts ∧ t.toList = c :: u.toList := by
  unfold addChar at member
  split at member
  next u rest =>
    rcases List.mem_cons.1 member with same | member
    · cases same
      exact .inr (.inr ⟨u, List.mem_cons_self, String.toList_ofList⟩)
    · exact .inl (List.mem_cons_of_mem _ member)
  next =>
    rcases List.mem_cons.1 member with same | member
    · cases same
      exact .inr (.inl (String.toList_singleton c))
    · exact .inl member

theorem slot_of_addChar {c : Char} {parts : List Part} {kind : SlotKind} {name : String}
    (member : .slot kind name ∈ addChar c parts) : .slot kind name ∈ parts := by
  unfold addChar at member
  split at member
  next u rest =>
    rcases List.mem_cons.1 member with same | member
    · cases same
    · exact List.mem_cons_of_mem _ member
  next =>
    rcases List.mem_cons.1 member with same | member
    · cases same
    · exact member

theorem isName_of_checkName {name : List Char} (checked : checkName name = .ok ()) :
    isName name = true := by
  unfold checkName at checked
  split at checked
  next => cases checked
  next =>
    split at checked
    next good => exact good
    next => cases checked

/-- What reading does at the first character: begin a literal, or take a slot. -/
theorem readParts_cons_eq_ok {c : Char} {rest : List Char} {parts : List Part}
    (read : readParts (c :: rest) = .ok parts) :
    (slotKind? c = none ∧ ∃ more, readParts rest = .ok more ∧ parts = addChar c more) ∨
      ∃ kind name after more, slotKind? c = some kind ∧ slotName rest = .ok (name, after) ∧
        checkName name = .ok () ∧ readParts after = .ok more ∧
        parts = .slot kind (String.ofList name) :: more := by
  rw [readParts] at read
  split at read
  next plain =>
    cases later : readParts rest with
    | error => rw [later] at read; cases read
    | ok more =>
      rw [later] at read
      cases read
      exact .inl ⟨plain, more, rfl, rfl⟩
  next kind sign =>
    split at read
    next => cases read
    next name after found =>
      cases checked : checkName name with
      | error => rw [checked] at read; cases read
      | ok =>
        cases later : readParts after with
        | error => rw [checked, later] at read; cases read
        | ok more =>
          rw [checked, later] at read
          cases read
          exact .inr ⟨kind, name, after, more, sign, found, checked, later, rfl⟩

theorem literal_of_readParts {text : List Char} {parts : List Part} (read : readParts text = .ok parts)
    {t : String} (member : .literal t ∈ parts) : t.toList ≠ [] ∧ t.toList ⊆ text := by
  match text with
  | [] =>
    rw [readParts] at read
    cases read
    cases member
  | c :: rest =>
    rcases readParts_cons_eq_ok read with ⟨_, more, later, rfl⟩ |
      ⟨kind, name, after, more, _, found, _, later, rfl⟩
    · rcases literal_of_addChar member with inside | alone | ⟨u, inside, joined⟩
      · obtain ⟨present, within⟩ := literal_of_readParts later inside
        exact ⟨present, fun d member => List.mem_cons_of_mem c (within member)⟩
      · rw [alone]
        exact ⟨List.cons_ne_nil _ _, List.cons_subset_cons c (List.nil_subset rest)⟩
      · rw [joined]
        exact ⟨List.cons_ne_nil _ _, List.cons_subset_cons c (literal_of_readParts later inside).2⟩
    · have inside : .literal t ∈ more := by
        rcases List.mem_cons.1 member with same | inside
        · cases same
        · exact inside
      have shorter := length_slotName found
      obtain ⟨present, within⟩ := literal_of_readParts later inside
      exact ⟨present, fun d member =>
        List.mem_cons_of_mem c ((suffix_of_slotName found).subset (within member))⟩
termination_by text.length
decreasing_by all_goals simp only [List.length_cons]; omega

theorem isName_of_readParts {text : List Char} {parts : List Part} (read : readParts text = .ok parts)
    {kind : SlotKind} {name : String} (member : .slot kind name ∈ parts) :
    isName name.toList = true := by
  match text with
  | [] =>
    rw [readParts] at read
    cases read
    cases member
  | c :: rest =>
    rcases readParts_cons_eq_ok read with ⟨_, more, later, rfl⟩ |
      ⟨kind', name', after, more, _, found, checked, later, rfl⟩
    · exact isName_of_readParts later (slot_of_addChar member)
    · have shorter := length_slotName found
      rcases List.mem_cons.1 member with same | inside
      · cases same
        rw [String.toList_ofList]
        exact isName_of_checkName checked
      · exact isName_of_readParts later inside
termination_by text.length
decreasing_by all_goals simp only [List.length_cons]; omega

theorem nodup_of_firstRepeated? {seen names : List String} (fresh : firstRepeated? seen names = none) :
    names.Nodup ∧ ∀ name ∈ names, name ∉ seen := by
  induction names generalizing seen with
  | nil => exact ⟨.nil, nofun⟩
  | cons name names ih =>
    unfold firstRepeated? at fresh
    split at fresh
    next => cases fresh
    next new =>
      obtain ⟨nodup, apart⟩ := ih fresh
      refine ⟨List.nodup_cons.2 ⟨fun member => apart name member List.mem_cons_self, nodup⟩, ?_⟩
      intro other member
      rcases List.mem_cons.1 member with rfl | member
      · exact new
      · exact fun inside => apart other member (List.mem_cons_of_mem name inside)

theorem readSegments_eq_ok {text : List Char} {segments : List Segment}
    (read : readSegments text = .ok segments) :
    List.Forall₂ (fun piece s => readParts piece = .ok s.parts)
        ((Slash.pieces text).filter (!·.isEmpty)) segments ∧ (names segments).Nodup := by
  unfold readSegments at read
  cases mapped : ((Slash.pieces text).filter (!·.isEmpty)).mapM fun piece =>
      (readParts piece).map Segment.mk with
  | error => rw [mapped] at read; cases read
  | ok found =>
    rw [mapped] at read
    dsimp only [bind, Except.bind] at read
    split at read
    next => cases read
    next fresh =>
      cases read
      refine ⟨(forall₂_of_mapM mapped).imp fun piece s read => ?_, (nodup_of_firstRepeated? fresh).1⟩
      cases parts : readParts piece with
      | error => rw [parts] at read; cases read
      | ok ps =>
        rw [parts] at read
        cases read
        rfl

theorem readSegments_of_read {pattern : String} {segments : List Segment}
    (read : read pattern = .ok segments) : readSegments pattern.toList = .ok segments := by
  unfold Pattern.read at read
  split at read
  next found =>
    cases read
    exact found
  next => cases read

theorem exists_piece_of_read {pattern : String} {segments : List Segment}
    (read : read pattern = .ok segments) {s : Segment} (inside : s ∈ segments) :
    ∃ piece : List Char, '/' ∉ piece ∧ readParts piece = .ok s.parts := by
  obtain ⟨pieces, _⟩ := readSegments_eq_ok (readSegments_of_read read)
  obtain ⟨i, bound, rfl⟩ := List.getElem_of_mem inside
  have parts := pieces.get (by rw [pieces.length_eq]; exact bound) bound
  exact ⟨_, Slash.notMem_of_mem_pieces (List.mem_of_mem_filter (List.getElem_mem _)), parts⟩

theorem literal_of_read {pattern : String} {segments : List Segment} (read : read pattern = .ok segments)
    {s : Segment} (inside : s ∈ segments) {t : String} (member : .literal t ∈ s.parts) :
    t.toList ≠ [] ∧ '/' ∉ t.toList := by
  obtain ⟨piece, slashless, parts⟩ := exists_piece_of_read read inside
  obtain ⟨present, within⟩ := literal_of_readParts parts member
  exact ⟨present, fun slash => slashless (within slash)⟩

theorem isName_of_read {pattern : String} {segments : List Segment} (read : read pattern = .ok segments)
    {s : Segment} (inside : s ∈ segments) {kind : SlotKind} {name : String}
    (member : .slot kind name ∈ s.parts) : isName name.toList = true := by
  obtain ⟨piece, _, parts⟩ := exists_piece_of_read read inside
  exact isName_of_readParts parts member

theorem nodup_of_read {pattern : String} {segments : List Segment} (read : read pattern = .ok segments) :
    (names segments).Nodup := (readSegments_eq_ok (readSegments_of_read read)).2

end UrlRouting.Pattern
