import UrlRouting.Proofs.Regex.Ahead
import UrlRouting.Proofs.Route.Embedded

/-! What the matcher of a route with one slot at its end finds in a path. The slot stands behind fixed
text and takes all that is left, so the matcher finds it just if the expression of the slot can take all
of that from there. -/

namespace UrlRouting

namespace Regex

variable {r s : Regex} {c p : Cursor} {e : Reach} {text : List Char} {name : String}

/-- From no place but the first does the expression reach anything. -/
def Anchored (r : Regex) : Prop := ∀ {c : Cursor} {e : Reach}, e ∈ r.ends c → c.index = 0

theorem Anchored.seq (anchored : r.Anchored) (s : Regex) : (Regex.seq r s).Anchored := by
  intro c e reached
  obtain ⟨f, first, _⟩ := mem_ends_seq reached
  exact anchored first

theorem mem_ends_textEnd : e ∈ (anchor .textEnd).ends c ↔ c.rest = [] ∧ e = Reach.stay c := by
  rw [ends, leafEnds, Anchor.holds]
  split
  next ended => simp [List.isEmpty_iff.1 ended]
  next left => simp [mt List.isEmpty_iff.2 left]
  all_goals simp

theorem mem_ends_seq_textEnd (reached : e ∈ (seq r (anchor .textEnd)).ends c) :
    e ∈ r.ends c ∧ e.cursor.rest = [] := by
  obtain ⟨f, first, g, last, rfl⟩ := mem_ends_seq reached
  obtain ⟨ended, rfl⟩ := mem_ends_textEnd.1 last
  exact ⟨first, ended⟩

theorem fills_seq_textEnd : (seq r (anchor .textEnd)).Fills c ↔ r.Fills c := by
  rw [fills_seq]
  constructor
  · intro given
    obtain ⟨f, first, g, last, _⟩ := given
    exact ⟨f, first, (mem_ends_textEnd.1 last).1⟩
  · intro given
    obtain ⟨f, first, ended⟩ := given
    exact ⟨f, first, Reach.stay f.cursor, mem_ends_textEnd.2 ⟨ended, rfl⟩, ended⟩

/-- A match of a whole text takes all of the text from its start. -/
theorem exists_of_search (anchored : r.Anchored) {k : List (String × List Char)}
    (found : (seq r (anchor .textEnd)).search text = some k) :
    ∃ e ∈ r.ends (.start text), e.cursor.rest = [] ∧ e.captures = k := by
  obtain ⟨c, place, first⟩ := List.exists_of_findSome?_eq_some found
  obtain ⟨e, head, rfl⟩ := Option.map_eq_some_iff.1 first
  obtain ⟨reached, ended⟩ := mem_ends_seq_textEnd (List.mem_of_head? head)
  obtain rfl := Cursor.eq_start_of_index place (anchored reached)
  exact ⟨e, reached, ended, rfl⟩

theorem isSome_search_iff (anchored : r.Anchored) :
    ((seq r (anchor .textEnd)).search text).isSome = true ↔ r.Fills (.start text) := by
  constructor
  · intro found
    obtain ⟨k, found⟩ := Option.isSome_iff_exists.1 found
    obtain ⟨e, reached, ended, _⟩ := exists_of_search anchored found
    exact ⟨e, reached, ended⟩
  · intro fills
    obtain ⟨e, reached, _⟩ := fills_seq_textEnd.2 fills
    rw [search, List.findSome?_isSome_iff]
    refine ⟨Cursor.start text, Cursor.start_mem_places text, ?_⟩
    rw [Option.isSome_map, List.isSome_head?]
    exact List.ne_nil_of_mem reached

/-- A group that takes all that is left notes all that is left. -/
theorem captures_of_mem_ends_group (reached : e ∈ (group (some name) r).ends c) (ended : e.cursor.rest = []) :
    ∃ f ∈ r.ends c, f.cursor.rest = [] ∧ e.captures = (name, c.rest) :: f.captures := by
  obtain ⟨f, inner, rfl⟩ := List.mem_map.1 reached
  obtain ⟨x, ahead, leads⟩ := leads_of_mem_ends (.refl c) inner
  have ended : f.cursor.rest = [] := ended
  have whole : c.upTo f.cursor = c.rest := by
    rw [leads, Cursor.upTo_past ahead]
    rw [leads] at ended
    exact (Cursor.rest_past_eq_nil ahead).1 ended
  exact ⟨f, inner, ended, by rw [noted, whole]⟩

end Regex

namespace Matcher.Strict
open Regex Shape

variable {front form : List Char} {c p : Cursor} {e : Reach} {name : String} {r : Regex} {slot : Node}

theorem takesAll_front {x : List Char} {k : List (String × List Char)} :
    TakesAll (frontNodes front) c x k ↔ c.index = 0 ∧ x = front ∧ x <+: c.rest ∧ k = [] := by
  rw [frontNodes, takesAll_cons]
  constructor
  · intro given
    obtain ⟨_, z, _, m, rfl, rfl, first, later⟩ := given
    obtain ⟨start, rfl, rfl⟩ := takes_anchor.1 first
    obtain ⟨rfl, ahead, rfl⟩ := (takesAll_literals front).1 later
    exact ⟨beq_iff_eq.1 start, rfl, ahead, rfl⟩
  · intro given
    obtain ⟨start, rfl, ahead, rfl⟩ := given
    exact ⟨[], x, [], [], rfl, rfl, takes_anchor.2 ⟨beq_iff_eq.2 start, rfl, rfl⟩,
      (takesAll_literals x).2 ⟨rfl, ahead, rfl⟩⟩

/-- Behind the start of the text fixed characters lead to one place. -/
theorem mem_ends_front : e ∈ (Node.concat (frontNodes front)).regex.ends c ↔
    c.index = 0 ∧ front <+: c.rest ∧ e = Reach.stay (c.past front) := by
  have straight : (Node.concat (frontNodes front)).regex.Straight := by
    apply straight_concat
    intro n member
    rcases List.mem_cons.1 member with rfl | member
    · trivial
    · obtain ⟨a, _, rfl⟩ := List.mem_map.1 member
      trivial
  have forward {e : Reach} (reached : e ∈ (Node.concat (frontNodes front)).regex.ends c) :
      c.index = 0 ∧ front <+: c.rest ∧ e = Reach.stay (c.past front) := by
    obtain ⟨x, takes, leads⟩ := takes_of_mem_ends straight reached
    rw [regex_concat] at takes
    obtain ⟨start, rfl, ahead, caught⟩ := takesAll_front.1 takes
    obtain ⟨_, _⟩ := e
    obtain rfl := leads
    obtain rfl := caught
    exact ⟨start, ahead, rfl⟩
  constructor
  · exact forward
  · intro given
    obtain ⟨start, ahead, rfl⟩ := given
    have takes : Takes (Node.concat (frontNodes front)).regex c front [] := by
      rw [regex_concat]
      exact takesAll_front.2 ⟨start, rfl, ahead, rfl⟩
    obtain ⟨f, reached, _⟩ := exists_mem_ends straight takes
    obtain ⟨_, _, rfl⟩ := forward reached
    exact reached

theorem anchored_front : (Node.concat (frontNodes front)).regex.Anchored :=
  fun reached => (mem_ends_front.1 reached).1

/-- The place of the slot in a path: behind the front and a slash, with the form of a value ahead. -/
def slotPlace (front form : List Char) : Cursor := (Cursor.start (front ++ '/' :: form)).past (front ++ ['/'])

theorem rest_slotPlace (front form : List Char) : (slotPlace front form).rest = form := by
  simp [slotPlace, Cursor.past, Cursor.start, List.drop_append]

/-- The matcher finds the form of a value in the slot if the expression of the slot can take it there. -/
structure FindsSlot (whole : Regex) (name : String) (r : Regex) (front form : List Char) : Prop where
  isSome_iff : (whole.search (front ++ '/' :: form)).isSome = true ↔ r.Fills (slotPlace front form)
  lookup_eq : ∀ k, whole.search (front ++ '/' :: form) = some k → k.lookup name = some form

theorem regex_concat_snoc {ns : List Node} (present : ns ≠ []) (n : Node) :
    (Node.concat (ns ++ [n])).regex = .seq (Node.concat ns).regex n.regex := by
  obtain ⟨m, ms, rfl⟩ := List.exists_cons_of_ne_nil present
  rw [regex_concat, regex_concat, List.map_append, List.map_cons, List.cons_append, chain, List.foldl_append]
  rfl

theorem regex_requiredNodes (front : List Char) (slot : Node) :
    (Node.concat (requiredNodes front slot)).regex =
      .seq (.seq (Node.concat (frontNodes (front ++ ['/']))).regex slot.regex) (.anchor .textEnd) := by
  have together : frontNodes front ++ [Node.literal '/'] = frontNodes (front ++ ['/']) := by
    simp [frontNodes]
  rw [requiredNodes, together, regex_concat_snoc (by simp [frontNodes]), regex_concat_snoc (by simp [frontNodes])]
  rfl

/-- Where the text in front leads to one place, the slot takes the text from there. -/
theorem captures_of_mem_ends_seq {first : Regex} (only : ∀ f ∈ first.ends c, f = Reach.stay p)
    (reached : e ∈ (Regex.seq first (.group (some name) r)).ends c) (ended : e.cursor.rest = []) :
    r.Fills p ∧ e.captures.lookup name = some p.rest := by
  obtain ⟨f, start, g, later, rfl⟩ := mem_ends_seq reached
  obtain rfl := only f start
  obtain ⟨b, inner, finished, caught⟩ := captures_of_mem_ends_group later ended
  refine ⟨⟨b, inner, finished⟩, ?_⟩
  rw [Reach.after, caught]
  simp [Reach.stay]

theorem finds_required (n : Node) (name : String) (front form : List Char) :
    FindsSlot (Node.concat (requiredNodes front (Node.group (some name) n))).regex name n.regex front form := by
  have ahead : front ++ ['/'] <+: front ++ '/' :: form := ⟨form, by simp⟩
  have only : ∀ f ∈ (Node.concat (frontNodes (front ++ ['/']))).regex.ends (.start (front ++ '/' :: form)),
      f = Reach.stay (slotPlace front form) := fun f reached => (mem_ends_front.1 reached).2.2
  have here : Reach.stay (slotPlace front form) ∈
      (Node.concat (frontNodes (front ++ ['/']))).regex.ends (.start (front ++ '/' :: form)) :=
    mem_ends_front.2 ⟨rfl, ahead, rfl⟩
  rw [regex_requiredNodes]
  have anchored : (Regex.seq (Node.concat (frontNodes (front ++ ['/']))).regex
      (Node.group (some name) n).regex).Anchored := Anchored.seq anchored_front _
  constructor
  · rw [isSome_search_iff anchored]
    constructor
    · intro fills
      obtain ⟨e, reached, ended⟩ := fills
      exact (captures_of_mem_ends_seq only reached ended).1
    · intro fills
      exact fills_seq.2 ⟨_, here, fills_group.2 fills⟩
  · intro k found
    obtain ⟨e, reached, ended, rfl⟩ := exists_of_search anchored found
    rw [(captures_of_mem_ends_seq only reached ended).2, rest_slotPlace]

/-- A slash and a slot, or nothing. -/
def optionalSlot (name : String) (r : Regex) : Regex :=
  .optional (.seq (Node.literal '/').regex (.group (some name) r)) true

theorem regex_optionalNodes (front : List Char) (n : Node) :
    (Node.concat (optionalNodes front (Node.group (some name) n))).regex =
      if front = [] then
        .seq (.seq (.seq (Node.concat (frontNodes front)).regex (optionalSlot name n.regex))
          ((Node.literal '/').repeated 0 (some 1) true).regex) (.anchor .textEnd)
      else .seq (.seq (Node.concat (frontNodes front)).regex (optionalSlot name n.regex)) (.anchor .textEnd) := by
  have present (ns : List Node) : frontNodes front ++ ns ≠ [] := by simp [frontNodes]
  have start : frontNodes front ≠ [] := by simp [frontNodes]
  rw [optionalNodes, regex_concat_snoc (by simp [frontNodes])]
  split
  · rw [regex_concat_snoc (present _), regex_concat_snoc start]
    rfl
  · rw [List.append_nil, regex_concat_snoc start]
    rfl

theorem mem_ends_slash {f : Reach} : f ∈ (Node.literal '/').regex.ends c ↔
    ['/'] <+: c.rest ∧ f = Reach.stay (c.past ['/']) := by
  have forward {f : Reach} (reached : f ∈ (Node.literal '/').regex.ends c) :
      ['/'] <+: c.rest ∧ f = Reach.stay (c.past ['/']) := by
    obtain ⟨x, takes, leads⟩ := takes_of_mem_ends (r := (Node.literal '/').regex) trivial reached
    obtain ⟨rfl, ahead, caught⟩ := (takes_literal '/').1 takes
    obtain ⟨_, _⟩ := f
    obtain rfl := leads
    obtain rfl := caught
    exact ⟨ahead, rfl⟩
  constructor
  · exact forward
  · intro given
    obtain ⟨ahead, rfl⟩ := given
    obtain ⟨f, reached, _⟩ := exists_mem_ends (r := (Node.literal '/').regex) trivial
      ((takes_literal '/').2 ⟨rfl, ahead, rfl⟩)
    obtain ⟨_, rfl⟩ := forward reached
    exact reached

section Optional

variable {n : Node} {k : List (String × List Char)}

theorem past_front (front form : List Char) :
    ((Cursor.start (front ++ '/' :: form)).past front).past ['/'] = slotPlace front form :=
  Cursor.past_past _ front ['/']

theorem rest_past_front (front form : List Char) :
    ((Cursor.start (front ++ '/' :: form)).past front).rest = '/' :: form := by
  simp [Cursor.past, Cursor.start]

/-- The way on from the front: past the slot, or nowhere. -/
theorem mem_ends_optionalSlot
    (reached : e ∈ (Regex.seq (Node.concat (frontNodes front)).regex (optionalSlot name r)).ends
      (.start (front ++ '/' :: form))) :
    e.cursor.rest = '/' :: form ∨
      ∃ f ∈ (Regex.seq (Node.literal '/').regex (.group (some name) r)).ends
          ((Cursor.start (front ++ '/' :: form)).past front), e = f := by
  obtain ⟨f, first, g, later, rfl⟩ := mem_ends_seq reached
  obtain ⟨_, _, rfl⟩ := mem_ends_front.1 first
  have same : g.after (Reach.stay ((Cursor.start (front ++ '/' :: form)).past front)).captures = g := by
    rw [Reach.after, Reach.stay, List.append_nil]
  rw [same]
  rcases mem_orStay_choices.1 (Reach.mem_of_mem_firsts later) with going | rfl
  · exact .inr ⟨g, going, rfl⟩
  · exact .inl (rest_past_front front form)

theorem captures_of_mem_ends_optionalSlot
    (reached : e ∈ (Regex.seq (Node.concat (frontNodes front)).regex (optionalSlot name r)).ends
      (.start (front ++ '/' :: form))) (ended : e.cursor.rest = []) :
    r.Fills (slotPlace front form) ∧ e.captures.lookup name = some form := by
  rcases mem_ends_optionalSlot reached with skipped | ⟨f, going, rfl⟩
  · rw [skipped] at ended
    cases ended
  · have only : ∀ f ∈ (Node.literal '/').regex.ends ((Cursor.start (front ++ '/' :: form)).past front),
        f = Reach.stay (slotPlace front form) := by
      intro f reached
      rw [(mem_ends_slash.1 reached).2, past_front]
    obtain ⟨fills, caught⟩ := captures_of_mem_ends_seq only going ended
    exact ⟨fills, caught.trans (congrArg some (rest_slotPlace front form))⟩

theorem fills_optionalSlot :
    (Regex.seq (Node.concat (frontNodes front)).regex (optionalSlot name r)).Fills
      (.start (front ++ '/' :: form)) ↔ r.Fills (slotPlace front form) := by
  constructor
  · intro given
    obtain ⟨e, reached, ended⟩ := given
    exact (captures_of_mem_ends_optionalSlot reached ended).1
  · intro fills
    have ahead : front <+: front ++ '/' :: form := List.prefix_append _ _
    have slash : ['/'] <+: ((Cursor.start (front ++ '/' :: form)).past front).rest := by
      rw [rest_past_front]
      exact ⟨form, rfl⟩
    refine fills_seq.2 ⟨_, mem_ends_front.2 ⟨rfl, ahead, rfl⟩, fills_optional.2 (.inl ?_)⟩
    refine fills_seq.2 ⟨_, mem_ends_slash.2 ⟨slash, rfl⟩, fills_group.2 ?_⟩
    change r.Fills (((Cursor.start (front ++ '/' :: form)).past front).past ['/'])
    rwa [past_front]

/-- A slash alone is never left: the form of a value holds none. -/
theorem rest_ne_slash (present : form ≠ []) (slashless : '/' ∉ form)
    (reached : e ∈ (Regex.seq (Node.concat (frontNodes front)).regex (optionalSlot name r)).ends
      (.start (front ++ '/' :: form))) : e.cursor.rest ≠ ['/'] := by
  rcases mem_ends_optionalSlot reached with skipped | ⟨f, going, rfl⟩
  · rw [skipped]
    exact fun same => present (List.cons.inj same).2
  · intro left
    obtain ⟨f, first, g, later, rfl⟩ := mem_ends_seq going
    obtain ⟨_, rfl⟩ := mem_ends_slash.1 first
    rw [Reach.stay, past_front] at later
    obtain ⟨x, _, leads⟩ := leads_of_mem_ends (.refl (slotPlace front form)) later
    have rest : form.drop x.length = ['/'] := by
      rw [← rest_slotPlace front form]
      exact (congrArg Cursor.rest leads).symm.trans left
    exact slashless (List.mem_of_mem_drop (rest ▸ List.mem_singleton_self '/'))

/-- A slash that may follow takes nothing. -/
theorem mem_ends_lastSlash {m : Regex} (never : ∀ f ∈ m.ends c, f.cursor.rest ≠ ['/'])
    (reached : e ∈ (Regex.seq m ((Node.literal '/').repeated 0 (some 1) true).regex).ends c)
    (ended : e.cursor.rest = []) : e ∈ m.ends c := by
  obtain ⟨f, first, g, last, rfl⟩ := mem_ends_seq reached
  have straight := straight_repeated_once (r := (Node.literal '/').regex) trivial true
  obtain ⟨x, takes, leads⟩ := takes_of_mem_ends straight last
  rcases (takes_repeated_once _ _).1 takes with ⟨rfl, caught⟩ | slash
  · have same : g.after f.captures = f := by
      rw [Reach.after, caught, leads]
      rfl
    rwa [same]
  · obtain ⟨rfl, ahead, _⟩ := (takes_literal '/').1 slash
    have ended : g.cursor.rest = [] := ended
    rw [leads, Cursor.rest_past_eq_nil ahead] at ended
    exact absurd ended.symm (never f first)

theorem fills_lastSlash {m : Regex} (never : ∀ f ∈ m.ends c, f.cursor.rest ≠ ['/']) :
    (Regex.seq m ((Node.literal '/').repeated 0 (some 1) true).regex).Fills c ↔ m.Fills c := by
  constructor
  · intro given
    obtain ⟨e, reached, ended⟩ := given
    exact ⟨e, mem_ends_lastSlash never reached ended, ended⟩
  · intro given
    obtain ⟨f, first, ended⟩ := given
    obtain ⟨g, last, stays⟩ := exists_mem_ends
      (straight_repeated_once (r := (Node.literal '/').regex) trivial true)
      ((takes_repeated_once (c := f.cursor) (Node.literal '/').regex true).2 (.inl ⟨rfl, rfl⟩))
    exact fills_seq.2 ⟨f, first, g, last, by rw [stays, Cursor.past_nil, ended]⟩

theorem finds_optional (n : Node) (name : String) (front : List Char) (present : form ≠ [])
    (slashless : '/' ∉ form) :
    FindsSlot (Node.concat (optionalNodes front (Node.group (some name) n))).regex name n.regex front form := by
  have anchored : (Regex.seq (Node.concat (frontNodes front)).regex (optionalSlot name n.regex)).Anchored :=
    Anchored.seq anchored_front _
  rw [regex_optionalNodes]
  split
  · -- without literals one more slash may follow, but none is left
    constructor
    · rw [isSome_search_iff (anchored.seq _), fills_lastSlash fun f => rest_ne_slash present slashless,
        fills_optionalSlot]
    · intro k found
      obtain ⟨e, reached, ended, rfl⟩ := exists_of_search (anchored.seq _) found
      have inner := mem_ends_lastSlash (fun f => rest_ne_slash present slashless) reached ended
      exact (captures_of_mem_ends_optionalSlot inner ended).2
  · constructor
    · rw [isSome_search_iff anchored, fills_optionalSlot]
    · intro k found
      obtain ⟨e, reached, ended, rfl⟩ := exists_of_search anchored found
      exact (captures_of_mem_ends_optionalSlot reached ended).2

end Optional

end Matcher.Strict

end UrlRouting
