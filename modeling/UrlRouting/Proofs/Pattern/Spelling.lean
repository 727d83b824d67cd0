import Mathlib.Data.List.Chain
import UrlRouting.Proofs.Pattern.Normal
import UrlRouting.Proofs.Text.Boundary

/-! How patterns are spelled. Between segments there is a slash or more, at the ends any number; the name
of a slot may stand in parentheses, and has to where a word character follows it. A pattern is read just
if it is a spelling of segments that are well formed, and as these segments. -/

namespace UrlRouting

namespace Slash

/-- Texts behind any number of slashes each, with at least one between two. -/
inductive Spaced : List (List Char) → List Char → Prop
  | none (n : Nat) : Spaced [] (run n)
  | last (n : Nat) (x : List Char) : Spaced [x] (run n ++ x)
  | cons (n : Nat) (x : List Char) {texts : List (List Char)} {rest : List Char} (more : Spaced texts rest) :
      Spaced (x :: texts) (run n ++ (x ++ '/' :: rest))

variable {texts : List (List Char)} {s x : List Char}

theorem Spaced.slash_cons (spaced : Spaced texts s) : Spaced texts ('/' :: s) := by
  cases spaced with
  | none n => exact .none (n + 1)
  | last n x => exact .last (n + 1) x
  | cons n x more => exact .cons (n + 1) x more

theorem good_of_mem_filled (member : x ∈ filled s) : x ≠ [] ∧ '/' ∉ x := by
  obtain ⟨inside, present⟩ := List.mem_filter.1 member
  exact ⟨by simpa using present, notMem_of_mem_pieces inside⟩

theorem filled_of_notMem (present : x ≠ []) (free : '/' ∉ x) : filled x = [x] := by
  rw [filled, pieces_of_notMem free, List.filter_cons_of_pos (by simpa using present), List.filter_nil]

theorem filled_append_slash_cons (present : x ≠ []) (free : '/' ∉ x) (rest : List Char) :
    filled (x ++ '/' :: rest) = x :: filled rest := by
  rw [filled, pieces_append_slash_cons free, List.filter_cons_of_pos (by simpa using present), filled]

/-- Texts that are there and without slashes are found in what they are spaced to. -/
theorem Spaced.filled_eq (spaced : Spaced texts s) (good : ∀ x ∈ texts, x ≠ [] ∧ '/' ∉ x) :
    filled s = texts := by
  induction spaced with
  | none n =>
    have empty := filled_run_append n []
    rwa [List.append_nil] at empty
  | last n x =>
    obtain ⟨present, free⟩ := good x List.mem_cons_self
    rw [filled_run_append, filled_of_notMem present free]
  | cons n x _ ih =>
    obtain ⟨⟨present, free⟩, later⟩ := List.forall_mem_cons.1 good
    rw [filled_run_append, filled_append_slash_cons present free, ih later]

theorem spaced_filled (s : List Char) : Spaced (filled s) s := by
  have joined (ps : List (List Char)) : Spaced (ps.filter (!·.isEmpty)) (join ps) := by
    induction ps with
    | nil => exact .none 0
    | cons x ps ih =>
      by_cases empty : x = []
      · subst empty
        rw [List.filter_cons_of_neg (by simp)]
        cases ps with
        | nil => exact .none 0
        | cons y ps => exact ih.slash_cons
      · rw [List.filter_cons_of_pos (by simpa using empty)]
        cases ps with
        | nil => exact .last 0 x
        | cons y ps => exact .cons 0 x ih
  have whole := joined (pieces s)
  rwa [join_pieces] at whole

end Slash

/-- The sign that a slot begins with. -/
def SlotKind.sign : SlotKind → Char
  | simple => ':'
  | wildcard => '*'

namespace Part

/-- A literal is there and has no slash and no sign of a slot in it. A name begins with a letter or an
underscore and has no character but those of words. -/
def WellFormed : Part → Prop
  | .literal text => text.toList ≠ [] ∧ ∀ c ∈ text.toList, c ≠ '/' ∧ c ≠ ':' ∧ c ≠ '*'
  | .slot _ name => (∃ c, name.toList.head? = some c ∧ Pattern.isNameStart c = true) ∧
      ∀ c ∈ name.toList, Pattern.isNameChar c = true

/-- Well-formed parts, of which no two literals stand side by side. -/
structure Regular (parts : List Part) : Prop where
  each : ∀ p ∈ parts, p.WellFormed
  apart : parts.IsChain fun p q => p.slot?.isSome = true ∨ q.slot?.isSome = true

/-- The text of parts one after the other. -/
inductive Spelling : List Part → List Char → Prop
  | nil : Spelling [] []
  | literal (text : String) {parts : List Part} {rest : List Char} (more : Spelling parts rest) :
      Spelling (.literal text :: parts) (text.toList ++ rest)
  | grouped (kind : SlotKind) (name : String) {parts : List Part} {rest : List Char}
      (more : Spelling parts rest) :
      Spelling (.slot kind name :: parts) (kind.sign :: '(' :: (name.toList ++ ')' :: rest))
  | plain (kind : SlotKind) (name : String) {parts : List Part} {rest : List Char}
      (more : Spelling parts rest) (ends : Stops Pattern.isNameChar rest) :
      Spelling (.slot kind name :: parts) (kind.sign :: (name.toList ++ rest))

end Part

/-- Parts that are regular, at least one. -/
structure Segment.WellFormed (s : Segment) : Prop where
  nonempty : s.parts ≠ []
  regular : Part.Regular s.parts

namespace Pattern

/-- Segments that are well formed, with names that are all different. -/
structure WellFormed (segments : List Segment) : Prop where
  each : ∀ s ∈ segments, s.WellFormed
  distinct : (names segments).Nodup

/-- The texts of the segments, with slashes between them and at the ends. -/
def Spelling (segments : List Segment) (pattern : List Char) : Prop :=
  ∃ texts, List.Forall₂ (fun x s => Part.Spelling s.parts x) texts segments ∧ Slash.Spaced texts pattern

variable {c : Char} {rest text name after : List Char} {parts more : List Part} {kind : SlotKind}

theorem slotKind?_eq_some_iff : slotKind? c = some kind ↔ c = kind.sign := by
  unfold slotKind?
  cases kind <;> by_cases simple : c = ':' <;> by_cases wild : c = '*' <;>
    simp_all [SlotKind.sign]

theorem slotKind?_sign (kind : SlotKind) : slotKind? kind.sign = some kind := slotKind?_eq_some_iff.2 rfl

theorem slotKind?_eq_none_iff : slotKind? c = none ↔ c ≠ ':' ∧ c ≠ '*' := by
  unfold slotKind?
  by_cases simple : c = ':' <;> by_cases wild : c = '*' <;> simp_all

theorem isName_iff : isName name = true ↔
    (∃ c, name.head? = some c ∧ isNameStart c = true) ∧ ∀ c ∈ name, isNameChar c = true := by
  cases name with
  | nil => simp [isName]
  | cons c name => simp [isName, and_assoc]

theorem checkName_eq_ok_iff : checkName name = .ok () ↔ isName name = true := by
  refine ⟨isName_of_checkName, fun named => ?_⟩
  have present : name.isEmpty = false := by
    cases name with
    | nil => cases named
    | cons c name => rfl
  rw [checkName, present, if_neg Bool.false_ne_true, if_pos named]

/-- A name ends at the first character that is not part of it, in parentheses at the closing one. -/
theorem slotName_eq_ok (found : slotName text = .ok (name, after)) :
    text = '(' :: (name ++ ')' :: after) ∨ text = name ++ after ∧ Stops isNameChar after := by
  unfold slotName at found
  split at found
  next rest =>
    split at found
    next c tail closed =>
      cases found
      have split := List.takeWhile_append_dropWhile (p := (· != ')')) (l := rest)
      have close := stops_dropWhile (· != ')') rest c (by rw [closed]; rfl)
      rw [closed] at split
      obtain rfl : c = ')' := by simpa using close
      exact .inl (by rw [split])
    next => cases found
  next =>
    cases found
    exact .inr ⟨List.takeWhile_append_dropWhile.symm, stops_dropWhile _ _⟩

theorem notMem_of_isNameChar {d : Char} (other : isNameChar d = false)
    (named : ∀ c ∈ name, isNameChar c = true) : d ∉ name := fun member => by
  rw [named d member] at other
  cases other

theorem slotName_grouped (named : ∀ c ∈ name, isNameChar c = true) (after : List Char) :
    slotName ('(' :: (name ++ ')' :: after)) = .ok (name, after) := by
  have inside : ∀ c ∈ name, (c != ')') = true := by
    intro c member
    rw [bne_iff_ne]
    rintro rfl
    exact notMem_of_isNameChar (by decide +kernel) named member
  have stops : Stops (· != ')') (')' :: after) := stops_cons rfl after
  rw [slotName, stops.dropWhile_append inside, stops.takeWhile_append inside]

theorem slotName_plain (present : name ≠ []) (named : ∀ c ∈ name, isNameChar c = true)
    (ends : Stops isNameChar after) : slotName (name ++ after) = .ok (name, after) := by
  unfold slotName
  split
  next rest opened =>
    obtain ⟨c, name, rfl⟩ := List.exists_cons_of_ne_nil present
    obtain rfl := (List.cons.inj opened).1
    exact absurd List.mem_cons_self (notMem_of_isNameChar (by decide +kernel) named)
  next => rw [ends.takeWhile_append named, ends.dropWhile_append named]

theorem readParts_cons_of_none (plain : slotKind? c = none) (read : readParts rest = .ok more) :
    readParts (c :: rest) = .ok (addChar c more) := by
  rw [readParts]
  split
  next => rw [read]; rfl
  next kind sign => rw [plain] at sign; cases sign

theorem readParts_cons_of_slot (sign : slotKind? c = some kind) (found : slotName rest = .ok (name, after))
    (named : isName name = true) (read : readParts after = .ok more) :
    readParts (c :: rest) = .ok (.slot kind (String.ofList name) :: more) := by
  rw [readParts]
  split
  next none => rw [sign] at none; cases none
  next other same =>
    obtain rfl : kind = other := Option.some.inj (sign.symm.trans same)
    split
    next fault failed => rw [found] at failed; cases failed
    next name' after' found' =>
      rw [found] at found'
      cases found'
      rw [checkName_eq_ok_iff.2 named, read]
      rfl

/-- Characters that begin no slot are read as one literal, if no literal follows. -/
theorem readParts_literal (present : text ≠ []) (plain : ∀ c ∈ text, slotKind? c = none)
    (apart : ∀ q ∈ parts.head?, q.slot?.isSome = true) (read : readParts rest = .ok parts) :
    readParts (text ++ rest) = .ok (.literal (String.ofList text) :: parts) := by
  induction text with
  | nil => exact absurd rfl present
  | cons c text ih =>
    have first := plain c List.mem_cons_self
    by_cases alone : text = []
    · have begun : addChar c parts = .literal (String.ofList [c]) :: parts := by
        cases parts with
        | nil => rfl
        | cons q parts =>
          cases q with
          | literal t => cases apart _ rfl
          | slot kind name => rfl
      rw [alone, List.singleton_append, readParts_cons_of_none first read, begun]
    · have later := ih alone fun d member => plain d (List.mem_cons_of_mem c member)
      rw [List.cons_append, readParts_cons_of_none first later, addChar, String.toList_ofList]

end Pattern

namespace Part
open Pattern

variable {c : Char} {text rest : List Char} {parts : List Part}

theorem regular_nil : Regular [] := ⟨List.forall_mem_nil _, .nil⟩

theorem regular_cons {p : Part} : Regular (p :: parts) ↔
    p.WellFormed ∧ (∀ q ∈ parts.head?, p.slot?.isSome = true ∨ q.slot?.isSome = true) ∧ Regular parts := by
  constructor
  · intro regular
    obtain ⟨here, later⟩ := List.isChain_cons.1 regular.apart
    exact ⟨regular.each p List.mem_cons_self, here, fun q member => regular.each q (List.mem_cons_of_mem p member),
      later⟩
  · rintro ⟨good, here, later⟩
    exact ⟨List.forall_mem_cons.2 ⟨good, later.each⟩, List.isChain_cons.2 ⟨here, later.apart⟩⟩

theorem Spelling.addChar (spelling : Spelling parts rest) (c : Char) :
    Spelling (Pattern.addChar c parts) (c :: rest) := by
  have alone (parts : List Part) (more : Spelling parts rest) :
      Spelling (.literal (String.singleton c) :: parts) (c :: rest) := by
    have joined := Spelling.literal (String.singleton c) more
    rwa [String.toList_singleton] at joined
  cases spelling with
  | nil => exact alone _ .nil
  | literal text more =>
    have joined := Spelling.literal (String.ofList (c :: text.toList)) more
    rwa [String.toList_ofList] at joined
  | grouped kind name more => exact alone _ (.grouped kind name more)
  | plain kind name more ends => exact alone _ (.plain kind name more ends)

theorem Regular.addChar (regular : Regular parts) (good : c ≠ '/' ∧ c ≠ ':' ∧ c ≠ '*') :
    Regular (Pattern.addChar c parts) := by
  have alone : (Part.literal (String.singleton c)).WellFormed := by
    simpa only [WellFormed, String.toList_singleton, List.forall_mem_singleton] using ⟨List.cons_ne_nil c [], good⟩
  match parts with
  | [] => exact regular_cons.2 ⟨alone, nofun, regular⟩
  | .slot kind name :: parts =>
    refine regular_cons.2 ⟨alone, fun q member => .inr ?_, regular⟩
    obtain rfl := Option.some.inj member
    rfl
  | .literal text :: parts =>
    obtain ⟨⟨present, free⟩, here, later⟩ := regular_cons.1 regular
    refine regular_cons.2 ⟨?_, here, later⟩
    rw [WellFormed, String.toList_ofList]
    exact ⟨List.cons_ne_nil _ _, List.forall_mem_cons.2 ⟨good, free⟩⟩

/-- What is read is spelled by the text. -/
theorem spelling_of_readParts {text : List Char} {parts : List Part} (slashless : '/' ∉ text)
    (read : readParts text = .ok parts) :
    Spelling parts text ∧ Regular parts := by
  match text with
  | [] =>
    rw [readParts] at read
    cases read
    exact ⟨.nil, regular_nil⟩
  | c :: rest =>
    obtain ⟨first, later⟩ := not_or.1 (List.mem_cons.not.1 slashless)
    rcases readParts_cons_eq_ok read with ⟨plain, more, follows, rfl⟩ |
      ⟨kind, name, after, more, sign, found, checked, follows, rfl⟩
    · obtain ⟨spelling, regular⟩ := spelling_of_readParts later follows
      exact ⟨spelling.addChar c, regular.addChar ⟨Ne.symm first, slotKind?_eq_none_iff.1 plain⟩⟩
    · have shorter := length_slotName found
      have free : '/' ∉ after := fun member => later ((suffix_of_slotName found).subset member)
      obtain ⟨spelling, regular⟩ := spelling_of_readParts free follows
      obtain rfl := slotKind?_eq_some_iff.1 sign
      have named : (Part.slot kind (String.ofList name)).WellFormed := by
        rw [WellFormed, String.toList_ofList]
        exact isName_iff.1 (checkName_eq_ok_iff.1 checked)
      refine ⟨?_, regular_cons.2 ⟨named, fun q _ => .inl rfl, regular⟩⟩
      rcases slotName_eq_ok found with rfl | ⟨rfl, ends⟩
      · have grouped := Spelling.grouped kind (String.ofList name) spelling
        rwa [String.toList_ofList] at grouped
      · have plain := Spelling.plain kind (String.ofList name) spelling ends
        rwa [String.toList_ofList] at plain
termination_by text.length
decreasing_by all_goals simp only [List.length_cons]; omega

/-- A spelling is read as the parts that it spells. -/
theorem Spelling.readParts_eq (spelling : Spelling parts text) (regular : Regular parts) :
    readParts text = .ok parts := by
  induction spelling with
  | nil => rw [readParts]
  | literal text _ ih =>
    obtain ⟨⟨present, free⟩, apart, later⟩ := regular_cons.1 regular
    have read := readParts_literal present (fun c member => slotKind?_eq_none_iff.2 (free c member).2)
      (fun q member => (apart q member).resolve_left Bool.false_ne_true) (ih later)
    rwa [String.ofList_toList] at read
  | grouped kind name _ ih =>
    obtain ⟨named, _, later⟩ := regular_cons.1 regular
    have read := readParts_cons_of_slot (slotKind?_sign kind) (slotName_grouped named.2 _)
      (isName_iff.2 named) (ih later)
    rwa [String.ofList_toList] at read
  | plain kind name _ ends ih =>
    obtain ⟨named, _, later⟩ := regular_cons.1 regular
    have present : name.toList ≠ [] := by
      obtain ⟨⟨c, first, _⟩, _⟩ := named
      rintro empty
      rw [empty] at first
      cases first
    have read := readParts_cons_of_slot (slotKind?_sign kind) (slotName_plain present named.2 ends)
      (isName_iff.2 named) (ih later)
    rwa [String.ofList_toList] at read

theorem Spelling.slash_notMem (spelling : Spelling parts text) (regular : Regular parts) : '/' ∉ text := by
  have sign (kind : SlotKind) : '/' ≠ kind.sign := by cases kind <;> decide
  have unnamed {name : List Char} (named : ∀ c ∈ name, isNameChar c = true) : '/' ∉ name :=
    notMem_of_isNameChar (by decide +kernel) named
  induction spelling with
  | nil => exact List.not_mem_nil
  | literal text _ ih =>
    obtain ⟨⟨_, free⟩, _, later⟩ := regular_cons.1 regular
    exact fun member => (List.mem_append.1 member).elim (fun inside => (free _ inside).1 rfl) (ih later)
  | grouped kind name _ ih =>
    obtain ⟨named, _, later⟩ := regular_cons.1 regular
    simp [sign kind, unnamed named.2, ih later]
  | plain kind name _ _ ih =>
    obtain ⟨named, _, later⟩ := regular_cons.1 regular
    simp [sign kind, unnamed named.2, ih later]

theorem Spelling.ne_nil (spelling : Spelling parts text) (regular : Regular parts) (nonempty : parts ≠ []) :
    text ≠ [] := by
  cases spelling with
  | nil => exact absurd rfl nonempty
  | literal text _ => exact List.append_ne_nil_of_left_ne_nil (regular_cons.1 regular).1.1 _
  | grouped kind name _ => exact List.cons_ne_nil _ _
  | plain kind name _ _ => exact List.cons_ne_nil _ _

end Part

namespace Pattern

variable {segments : List Segment} {text : List Char}

theorem firstRepeated?_eq_none {seen names : List String} (nodup : names.Nodup)
    (fresh : ∀ name ∈ names, name ∉ seen) : firstRepeated? seen names = none := by
  induction names generalizing seen with
  | nil => rfl
  | cons name names ih =>
    obtain ⟨first, later⟩ := List.nodup_cons.1 nodup
    rw [firstRepeated?, if_neg (fresh name List.mem_cons_self)]
    refine ih later fun other member => ?_
    rw [List.mem_cons, not_or]
    exact ⟨fun same => first (same ▸ member), fresh other (List.mem_cons_of_mem name member)⟩

theorem readSegments_eq_ok_iff : readSegments text = .ok segments ↔
    List.Forall₂ (fun piece s => readParts piece = .ok s.parts) (Slash.filled text) segments ∧
      (names segments).Nodup := by
  refine ⟨readSegments_eq_ok, fun ⟨pieces, distinct⟩ => ?_⟩
  have mapped := mapM_of_forall₂ (f := fun piece => (readParts piece).map Segment.mk)
    (pieces.imp fun piece s read => by
      rw [read]
      rfl)
  rw [Slash.filled] at mapped
  rw [readSegments, mapped, pure_bind, firstRepeated?_eq_none distinct fun _ _ => List.not_mem_nil]

theorem read_eq_ok_iff_readSegments {pattern : String} :
    read pattern = .ok segments ↔ readSegments pattern.toList = .ok segments := by
  refine ⟨readSegments_of_read, fun found => ?_⟩
  rw [read, found]

theorem spelled_of_read {texts : List (List Char)}
    (read : List.Forall₂ (fun x s => readParts x = .ok s.parts) texts segments)
    (good : ∀ x ∈ texts, x ≠ [] ∧ '/' ∉ x) :
    (∀ s ∈ segments, s.WellFormed) ∧ List.Forall₂ (fun x s => Part.Spelling s.parts x) texts segments := by
  induction read with
  | nil => exact ⟨List.forall_mem_nil _, .nil⟩
  | @cons x s texts segments first _ ih =>
    obtain ⟨⟨present, free⟩, later⟩ := List.forall_mem_cons.1 good
    obtain ⟨each, spelled⟩ := ih later
    obtain ⟨spelling, regular⟩ := Part.spelling_of_readParts free first
    have nonempty : s.parts ≠ [] := by
      intro empty
      rw [empty] at spelling
      cases spelling
      exact present rfl
    exact ⟨List.forall_mem_cons.2 ⟨⟨nonempty, regular⟩, each⟩, .cons spelling spelled⟩

theorem read_of_spelled {texts : List (List Char)}
    (spelled : List.Forall₂ (fun x s => Part.Spelling s.parts x) texts segments)
    (each : ∀ s ∈ segments, s.WellFormed) :
    (∀ x ∈ texts, x ≠ [] ∧ '/' ∉ x) ∧ List.Forall₂ (fun x s => readParts x = .ok s.parts) texts segments := by
  induction spelled with
  | nil => exact ⟨List.forall_mem_nil _, .nil⟩
  | cons spelling _ ih =>
    obtain ⟨⟨nonempty, regular⟩, later⟩ := List.forall_mem_cons.1 each
    obtain ⟨good, read⟩ := ih later
    exact ⟨List.forall_mem_cons.2 ⟨⟨spelling.ne_nil regular nonempty, spelling.slash_notMem regular⟩, good⟩,
      .cons (spelling.readParts_eq regular) read⟩

/-- What is read is well formed, and the pattern is a spelling of it. -/
theorem spelling_of_read {pattern : String} (found : read pattern = .ok segments) :
    WellFormed segments ∧ Spelling segments pattern.toList := by
  obtain ⟨pieces, distinct⟩ := readSegments_eq_ok_iff.1 (readSegments_of_read found)
  obtain ⟨each, spelled⟩ := spelled_of_read pieces fun x => Slash.good_of_mem_filled
  exact ⟨⟨each, distinct⟩, _, spelled, Slash.spaced_filled _⟩

/-- A pattern is read as segments just if they are well formed and it is a spelling of them. -/
theorem read_eq_ok_iff_spelling (pattern : String) (segments : List Segment) :
    read pattern = .ok segments ↔ WellFormed segments ∧ Spelling segments pattern.toList := by
  refine ⟨spelling_of_read, fun ⟨good, texts, spelled, spaced⟩ => ?_⟩
  obtain ⟨apart, pieces⟩ := read_of_spelled spelled good.each
  rw [read_eq_ok_iff_readSegments, readSegments_eq_ok_iff, spaced.filled_eq apart]
  exact ⟨pieces, good.distinct⟩

/-- Parentheses that do not follow the sign of a slot are literal. -/
example : read "a(b)//:(c)d*e/" =
    .ok [⟨[.literal "a(b)"]⟩, ⟨[.slot .simple "c", .literal "d", .slot .wildcard "e"]⟩] := by decide +kernel

end Pattern

end UrlRouting
