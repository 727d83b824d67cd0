import UrlRouting.Proofs.Pattern.Read
import UrlRouting.Proofs.Route.Accept
import UrlRouting.Proofs.Route.Render
import UrlRouting.Proofs.Traversal

/-! What values a route admits. Every slot has a check of its own; without a validator it holds a value to
what may stand in the slot. These checks, the defaults and the required names decide what is accepted: the
limit on the number of names never does. -/

namespace UrlRouting
open Regex Percent

namespace Matcher

theorem check?_eq_some {validators : Validators} {kind : SlotKind} {name : String}
    {check : String × SlotKind × Regex} (checked : check? validators kind name = some check) :
    check.1 = name ∧ check.2.1 = kind ∧
      ∃ n, checkNode? validators kind name = some n ∧ n.compile? = some check.2.2 := by
  obtain ⟨n, written, checked⟩ := Option.bind_eq_some_iff.1 checked
  obtain ⟨regex, compiled, checked⟩ := Option.bind_eq_some_iff.1 checked
  obtain rfl := Option.some.inj checked
  exact ⟨rfl, rfl, n, written, compiled⟩

variable {segments : List Segment} {defaults : ParameterSet} {validators : Validators} {m : Matchers}
  {name : String}

theorem forall₂_checks (built : build? segments defaults validators = some m) :
    List.Forall₂ (fun s c => check? validators s.1 s.2 = some c) (slots segments) m.checks :=
  forall₂_of_mapM (build?_eq_some built).2.2

theorem keys_checks (built : build? segments defaults validators = some m) :
    m.checks.map (·.1) = Pattern.names segments := by
  rw [names_eq_slots]
  have each := forall₂_checks built
  generalize m.checks = checks, slots segments = slots at each
  induction each with
  | nil => rfl
  | cons first _ ih => rw [List.map_cons, List.map_cons, ih, (check?_eq_some first).1]

theorem mem_checks_iff (built : build? segments defaults validators = some m) {kind : SlotKind}
    {check : Regex} : (name, kind, check) ∈ m.checks ↔
      (kind, name) ∈ slots segments ∧ check? validators kind name = some (name, kind, check) := by
  have each := forall₂_checks built
  generalize m.checks = checks, slots segments = slots at each
  induction each with
  | nil => simp
  | @cons s c _ _ first _ ih =>
    obtain ⟨named, kinded, _⟩ := check?_eq_some first
    have here : (name, kind, check) = c ↔
        (kind, name) = s ∧ check? validators kind name = some (name, kind, check) := by
      constructor
      · rintro rfl
        obtain rfl : (kind, name) = s := Prod.ext kinded named
        exact ⟨rfl, first⟩
      · rintro ⟨rfl, checked⟩
        exact Option.some.inj (checked.symm.trans first)
    rw [List.mem_cons, List.mem_cons, or_and_right]
    exact or_congr here ih

theorem exists_checkNode_of_lookup (built : build? segments defaults validators = some m)
    {kind : SlotKind} {check : Regex} (found : m.checks.lookup name = some (kind, check)) :
    (kind, name) ∈ slots segments ∧
      ∃ n, checkNode? validators kind name = some n ∧ n.compile? = some check := by
  obtain ⟨slot, checked⟩ := (mem_checks_iff built).1 (mem_of_lookup found)
  exact ⟨slot, (check?_eq_some checked).2.2⟩

theorem lookup_checks_eq_some_iff (built : build? segments defaults validators = some m)
    (nodup : (Pattern.names segments).Nodup) {kind : SlotKind} {check : Regex} :
    m.checks.lookup name = some (kind, check) ↔
      (kind, name) ∈ slots segments ∧ check? validators kind name = some (name, kind, check) := by
  rw [← mem_checks_iff built]
  exact ⟨mem_of_lookup, lookup_of_mem (keys_checks built ▸ nodup)⟩

theorem isSome_lookup_checks (built : build? segments defaults validators = some m)
    (member : name ∈ Pattern.names segments) : ∃ check, m.checks.lookup name = some check := by
  cases found : m.checks.lookup name with
  | some check => exact ⟨check, rfl⟩
  | none =>
    rw [← keys_checks built] at member
    obtain ⟨c, inside, rfl⟩ := List.mem_map.1 member
    have other := List.lookup_eq_none_iff.1 found c inside
    simp at other

end Matcher

namespace Matcher.Shape

/-- The check of a slot without validator: the whole text may stand in the slot. -/
theorem isMatch_slot (kind : SlotKind) (name : String) (text : List Char) :
    (Node.concat [Node.leaf (.anchor .textStart), (slotNode kind).enclosed,
      Node.leaf (.anchor .textEnd)]).regex.isMatch text = true ↔ Part.Fits (.slot kind name) text := by
  have straight : (Node.concat [Node.leaf (.anchor .textStart), (slotNode kind).enclosed,
      Node.leaf (.anchor .textEnd)]).regex.Straight := by
    cases kind <;> exact ⟨⟨trivial, trivial⟩, trivial⟩
  have takes {c : Cursor} {x : List Char} {k : List (String × List Char)} :
      Takes (Node.concat [Node.leaf (.anchor .textStart), (slotNode kind).enclosed,
        Node.leaf (.anchor .textEnd)]).regex c x k ↔
      c.index = 0 ∧ x = c.rest ∧ Part.Fits (.slot kind name) x ∧ k = [] := by
    rw [regex_concat]
    constructor
    · intro given
      obtain ⟨_, y, _, l, rfl, rfl, first, later⟩ := (takesAll_cons _ _).1 given
      obtain ⟨start, rfl, rfl⟩ := takes_anchor.1 first
      obtain ⟨z, w, _, m, rfl, rfl, slot, last⟩ := (takesAll_cons _ _).1 later
      obtain ⟨ahead, fits, rfl⟩ := (takes_slotNode kind name).1 slot
      obtain ⟨ended, rfl, rfl⟩ := takes_textEnd.1 ((takesAll_singleton _).1 last)
      rw [Cursor.past_nil] at ended ahead
      rw [List.append_nil, List.nil_append]
      exact ⟨beq_iff_eq.1 start, (Cursor.rest_past_eq_nil ahead).1 ended, fits, rfl⟩
    · intro given
      obtain ⟨start, rfl, fits, rfl⟩ := given
      have slot := (takes_slotNode kind name).2 ⟨List.prefix_rfl (l := c.rest), fits, rfl⟩
      have ended : (c.past c.rest).rest = [] := (Cursor.rest_past_eq_nil List.prefix_rfl).2 rfl
      have last := (takesAll_singleton _).2 (takes_textEnd.2 ⟨ended, rfl, rfl⟩)
      refine (takesAll_cons _ _).2 ⟨[], c.rest, [], [], rfl, rfl, takes_anchor.2 ⟨beq_iff_eq.2 start, rfl, rfl⟩, ?_⟩
      exact (takesAll_cons _ _).2 ⟨c.rest, [], [], [], (List.append_nil _).symm, rfl, slot, last⟩
  constructor
  · intro accepts
    obtain ⟨captures, found⟩ := Option.isSome_iff_exists.1 accepts
    obtain ⟨c, place, x, took⟩ := takes_of_search straight found
    obtain ⟨start, rfl, fits, _⟩ := takes.1 took
    rwa [Cursor.eq_start_of_index place start] at fits
  · intro fits
    exact isSome_search straight (takes.2 ⟨rfl, rfl, fits, rfl⟩)

end Matcher.Shape

namespace Route

variable {d : Declaration} {r : Route} {name : String}

theorem Compiled.admits_simple (compiled : Compiled d r) (own : name ∈ r.params)
    (simple : ∀ s ∈ Matcher.slots r.segments, s.1 = .simple) (unvalidated : r.Unvalidated) {v : ParamValue}
    (slashless : ∀ text, v.text? = some text → '/' ∉ text.toList) : r.admits name v = true := by
  obtain ⟨⟨kind, check⟩, found⟩ := Matcher.isSome_lookup_checks compiled.matchers_built own
  obtain ⟨slot, n, written, limits⟩ := Matcher.exists_checkNode_of_lookup compiled.matchers_built found
  obtain rfl : kind = .simple := simple _ slot
  have free : r.validators.get? name = none :=
    Option.isNone_iff_eq_none.1 (Option.isSome_eq_false_iff.1 (unvalidated name own))
  rw [Matcher.checkNode?, free] at written
  obtain rfl := Option.some.inj written
  obtain ⟨rfl, _⟩ := Matcher.compile?_eq_some limits
  rw [admits, found]
  change slotAdmits .simple _ v = true
  unfold slotAdmits
  cases value : v.text? with
  | none => rfl
  | some text =>
    have present : text.toList ≠ [] := by simpa using ParamValue.ne_empty_of_text? value
    have plain := (Matcher.Shape.isMatch_slot .simple name _).2 ⟨present, slashless text value⟩
    have encoded : Part.Fits (.slot .simple name) (matchedForm false text.toList) := by
      rw [matchedForm_eq]
      exact ⟨Slash.flatMap_ne_nil present (settledAt_ne_nil false), slash_notMem_settledValue _⟩
    exact Bool.and_eq_true_iff.2 ⟨plain, (Matcher.Shape.isMatch_slot .simple name _).2 encoded⟩

/-- The name is a parameter, and a text given for it passes the check of its slot, as it stands and in the form
that is matched. -/
def Suits (r : Route) (name : String) (v : ParamValue) : Prop :=
  ∃ kind check, (kind, name) ∈ Matcher.slots r.segments ∧
    Matcher.check? r.validators kind name = some (name, kind, check) ∧
    ∀ text, v.text? = some text → check.isMatch text.toList = true ∧
      check.isMatch (matchedForm kind.isWildcard text.toList) = true

/-- The name is no parameter, and has an equivalent default. -/
def Restates (r : Route) (name : String) (v : ParamValue) : Prop :=
  name ∉ r.params ∧ ∃ default, r.defaults.get? name = some default ∧ default.equivalent v = true

theorem Suits.mem_params {v : ParamValue} (suits : r.Suits name v) : name ∈ r.params := by
  obtain ⟨kind, _, slot, _⟩ := suits
  rw [params, Matcher.names_eq_slots]
  exact List.mem_map_of_mem slot

theorem Restates.contains {v : ParamValue} (restates : r.Restates name v) : r.defaults.contains name = true := by
  obtain ⟨_, default, found, _⟩ := restates
  rw [NameMap.contains, found]
  rfl

theorem slotAdmits_iff {kind : SlotKind} {check : Regex} {v : ParamValue} : slotAdmits kind check v = true ↔
    ∀ text, v.text? = some text → check.isMatch text.toList = true ∧
      check.isMatch (matchedForm kind.isWildcard text.toList) = true := by
  unfold slotAdmits
  cases v.text? with
  | none => simp
  | some text => simp

theorem Compiled.lookup_checks_eq_some_iff (compiled : Compiled d r) {kind : SlotKind} {check : Regex} :
    r.matchers.checks.lookup name = some (kind, check) ↔
      (kind, name) ∈ Matcher.slots r.segments ∧ Matcher.check? r.validators kind name = some (name, kind, check) :=
  Matcher.lookup_checks_eq_some_iff compiled.matchers_built (Pattern.nodup_of_read compiled.segments_read)

/-- A name and value may be supplied just if the value suits the slot of the name, or is its default. -/
theorem Compiled.admits_iff (compiled : Compiled d r) {v : ParamValue} :
    r.admits name v = true ↔ r.Suits name v ∨ r.Restates name v := by
  unfold admits
  split
  next kind check found =>
    obtain ⟨slot, checked⟩ := compiled.lookup_checks_eq_some_iff.1 found
    have own : name ∈ r.params := Suits.mem_params (v := .absent) ⟨kind, check, slot, checked, nofun⟩
    rw [slotAdmits_iff, or_iff_left fun restates => restates.1 own]
    constructor
    · exact fun passes => ⟨kind, check, slot, checked, passes⟩
    · rintro ⟨kind', check', slot', checked', passes⟩
      have same := found.symm.trans (compiled.lookup_checks_eq_some_iff.2 ⟨slot', checked'⟩)
      obtain ⟨rfl, rfl⟩ := Prod.mk.inj (Option.some.inj same)
      exact passes
  next none =>
    have other : name ∉ r.params := by
      intro own
      obtain ⟨check, found⟩ := Matcher.isSome_lookup_checks compiled.matchers_built own
      cases none.symm.trans found
    rw [or_iff_right fun suits => other suits.mem_params, Restates, and_iff_right other, Option.any_eq_true]

/-- What is gathered has no more names than the route allows. -/
theorem Compiled.size_le_of_gather? (compiled : Compiled d r) {supplied accepted : ParameterSet}
    (gathered : r.gather? supplied = some accepted) : accepted.size ≤ r.maxKeys := by
  rw [gather?_eq] at gathered
  split at gathered
  next all =>
    obtain rfl := Option.some.inj gathered
    refine size_le_maxKeys fun name member => ?_
    obtain ⟨⟨_, v⟩, inside, rfl⟩ := List.mem_map.1 member
    rcases compiled.admits_iff.1 (List.all_eq_true.1 all _ inside) with suits | restates
    · exact .inl suits.mem_params
    · exact .inr restates.contains
  next => cases gathered

/-- A set of parameters is accepted as it is or not at all: it is if each name is a parameter whose text, if it
has one, passes the check of its slot in both forms, or is no parameter and given its default, and the
required parameters are among the names. The number of names refuses no set for which the first holds. -/
theorem accept_exactly (compiles : compile d = .ok r) (supplied : ParameterSet) :
    (r.accept supplied = none ∨ r.accept supplied = some supplied) ∧
      ((r.accept supplied).isSome = true ↔
        (∀ name v, supplied.get? name = some v → r.Suits name v ∨ r.Restates name v) ∧
          ∀ name ∈ r.required, supplied.contains name = true) ∧
      ∀ accepted, r.gather? supplied = some accepted → accepted.size ≤ r.maxKeys := by
  have compiled := compile_eq_ok_iff.1 compiles
  have admitted : (∀ e ∈ supplied.entries, r.admits e.1 e.2 = true) ↔
      ∀ name v, supplied.get? name = some v → r.Suits name v ∨ r.Restates name v := by
    simp only [Prod.forall, NameMap.get?_eq_some_iff, compiled.admits_iff]
  have sized (all : ∀ e ∈ supplied.entries, r.admits e.1 e.2 = true) : supplied.size ≤ r.maxKeys := by
    apply compiled.size_le_of_gather?
    rw [gather?_eq, if_pos (List.all_eq_true.2 all)]
  have whole : (r.accept supplied).isSome = true ↔ r.accept supplied = some supplied := by
    rw [Option.isSome_iff_exists]
    exact ⟨fun ⟨accepted, accepts⟩ => eq_of_accept accepts ▸ accepts, fun accepts => ⟨supplied, accepts⟩⟩
  refine ⟨?_, ?_, fun accepted => compiled.size_le_of_gather?⟩
  · rw [← whole, ← Option.not_isSome_iff_eq_none]
    exact (em _).symm
  · rw [whole, accept_eq_some_iff, ← admitted]
    exact ⟨fun ⟨all, _, required⟩ => ⟨all, required⟩, fun ⟨all, required⟩ => ⟨all, sized all, required⟩⟩

/-- An integer restates the text of a default, and an empty text passes unchecked. A text that passes the check
as it stands is refused where its matched form, here one of four characters, does not pass. -/
theorem accept_exactly_forms : ∃ r,
    compile ⟨"posts/:id/*rest", none, .ofList [("page", .text "7"), ("rest", .absent)], .ofList [("id", "a.")]⟩ =
      .ok r ∧
    r.accept (.ofList [("id", .text "ab"), ("page", .int 7), ("rest", .text "")]) =
      some (.ofList [("id", .text "ab"), ("page", .int 7), ("rest", .text "")]) ∧
    r.Suits "id" (.text "ab") ∧ r.Restates "page" (.int 7) ∧ r.Suits "rest" (.text "") ∧
    r.accept (.ofList [("id", .text "a%")]) = none ∧ ¬r.Suits "id" (.text "a%") := by
  obtain ⟨r, compiles⟩ := exists_compile (d := ⟨"posts/:id/*rest", none,
    .ofList [("page", .text "7"), ("rest", .absent)], .ofList [("id", "a.")]⟩) (by decide +kernel)
  have run : (compile ⟨"posts/:id/*rest", none, .ofList [("page", .text "7"), ("rest", .absent)],
      .ofList [("id", "a.")]⟩).toOption.any (fun r =>
        (r.accept (.ofList [("id", .text "ab"), ("page", .int 7), ("rest", .text "")])).isSome &&
          (r.accept (.ofList [("id", .text "a%")])).isNone && r.params == ["id", "rest"] &&
          r.required == ["id"]) = true := by decide +kernel
  rw [compiles] at run
  simp only [Except.toOption, Option.any_some, Bool.and_eq_true, beq_iff_eq, Option.isNone_iff_eq_none] at run
  obtain ⟨⟨⟨accepted, refused⟩, params⟩, required⟩ := run
  obtain ⟨kept, accepts, _⟩ := accept_exactly compiles
    (.ofList [("id", .text "ab"), ("page", .int 7), ("rest", .text "")])
  obtain ⟨_, refuses, _⟩ := accept_exactly compiles (.ofList [("id", .text "a%")])
  have may := (accepts.1 accepted).1
  have slot {name : String} {v : ParamValue} (own : name ∈ ["id", "rest"])
      (either : r.Suits name v ∨ r.Restates name v) : r.Suits name v :=
    either.resolve_right fun restates => restates.1 (params ▸ own)
  refine ⟨r, compiles, kept.resolve_left fun none => ?_, slot (by decide) (may _ _ (by decide)),
    (may "page" (.int 7) (by decide)).resolve_left fun suits => ?_, slot (by decide) (may _ _ (by decide)), refused,
    fun suits => ?_⟩
  · rw [none] at accepted
    cases accepted
  · have own := params ▸ suits.mem_params
    exact absurd own (by decide)
  · have given : (r.accept (.ofList [("id", .text "a%")])).isSome = true := by
      refine refuses.2 ⟨fun name v found => .inl ?_, fun name member => ?_⟩
      · have only : (name, v) ∈ [("id", ParamValue.text "a%")] := NameMap.get?_eq_some_iff.1 found
        obtain ⟨rfl, rfl⟩ := Prod.mk.inj (List.mem_singleton.1 only)
        exact suits
      · rw [required, List.mem_singleton] at member
        subst member
        decide
    rw [refused] at given
    cases given

end Route

end UrlRouting
