import UrlRouting.Proofs.Regex.Moved
import UrlRouting.Proofs.Route.RoundTrip
import UrlRouting.Proofs.Route.Slotted

/-! Values of a slot with a validator. The check of the slot sees the form of the value alone, the strict
matcher sees it behind the rest of the path. The two agree on all expressions but those that ask for the
start of the text or of a line. -/

namespace UrlRouting
open Regex Slash Percent Segment Matcher.Strict

namespace Matcher

/-- The check of a slot accepts what the expression of its validator can take as a whole. -/
theorem isMatch_check (n : Node) (text : List Char) :
    (Node.concat [Node.leaf (.anchor .textStart), n.enclosed, Node.leaf (.anchor .textEnd)]).regex.isMatch
      text = true ↔ n.regex.Fills (.start text) := by
  have whole : (Node.concat [Node.leaf (.anchor .textStart), n.enclosed, Node.leaf (.anchor .textEnd)]).regex =
      .seq (.seq (Node.concat (frontNodes [])).regex n.regex) (.anchor .textEnd) := rfl
  have here {e : Reach} : e ∈ (Node.concat (frontNodes [])).regex.ends (.start text) ↔
      e = Reach.stay (.start text) := by
    rw [mem_ends_front]
    exact ⟨fun given => given.2.2, fun same => ⟨rfl, List.nil_prefix, same⟩⟩
  rw [whole, Regex.isMatch, isSome_search_iff (Anchored.seq anchored_front _), fills_seq]
  constructor
  · intro given
    obtain ⟨f, start, fills⟩ := given
    rwa [here.1 start] at fills
  · intro fills
    exact ⟨_, here.2 rfl, fills⟩

theorem splitTail_required {defaults : ParameterSet} {literals : List String} {kind : SlotKind} {name : String}
    (undefaulted : defaults.contains name = false) :
    splitTail defaults (literalSegments literals ++ [single (.slot kind name)]) =
      (literalSegments literals ++ [single (.slot kind name)], []) := by
  have stops : isOptional defaults (single (.slot kind name)) = false := undefaulted
  have none : (literalSegments literals ++ [single (.slot kind name)]).reverse.takeWhile
      (isOptional defaults) = [] := by
    rw [List.reverse_append]
    simp [stops]
  simp only [splitTail, none, List.length_nil, Nat.sub_zero, List.take_length, List.drop_length]

theorem splitTail_optional {defaults : ParameterSet} {literals : List String} {kind : SlotKind} {name : String}
    (defaulted : defaults.contains name = true) :
    splitTail defaults (literalSegments literals ++ [single (.slot kind name)]) =
      (literalSegments literals, [single (.slot kind name)]) := by
  have goes : isOptional defaults (single (.slot kind name)) = true := defaulted
  have stops : (literalSegments literals).reverse.takeWhile (isOptional defaults) = [] := by
    cases last : (literalSegments literals).reverse with
    | nil => rfl
    | cons s rest =>
      have member : s ∈ literalSegments literals := by
        rw [← List.mem_reverse, last]
        exact List.mem_cons_self
      obtain ⟨text, _, rfl⟩ := List.mem_map.1 member
      rfl
  rw [splitTail, List.reverse_append]
  simp [goes, stops]

end Matcher

theorem Regex.Fills.moved {r : Regex} (startless : r.startless = true) {form : List Char}
    (fills : r.Fills (.start form)) (front : List Char) : r.Fills (slotPlace front form) := by
  have place : slotPlace front form = (Cursor.start form).moved (front.length + 1) := by
    simp [slotPlace, Cursor.past, Cursor.start, Cursor.moved, List.drop_append]
  obtain ⟨e, reached, ended⟩ := fills
  refine ⟨e.moved (front.length + 1), ?_, ended⟩
  rw [place, ends_moved startless]
  exact List.mem_map_of_mem reached

namespace Route

variable {d : Declaration} {r : Route} {literals : List String} {name fragment : String} {n : Node}
  {v : String}

/-- Plain literals, and behind them a simple slot that is all of its segment. -/
structure EndsInSlot (r : Route) (literals : List String) (name : String) : Prop where
  segments_eq : r.segments = literals.map (fun text => single (.literal text)) ++ [single (.slot .simple name)]
  plain : ∀ text ∈ literals, '%' ∉ text.toList ∧ Unmarked text.toList

/-- The validator of the name is this expression, which is one by itself. -/
structure HoldsTo (r : Route) (name fragment : String) (n : Node) : Prop where
  validator_eq : r.validators.get? name = some fragment
  complete : Node.parse? ("(?:".toList ++ fragment.toList ++ [')']) = some n

theorem EndsInSlot.of_read (compiled : Compiled d r) (read : Pattern.read d.pattern =
      .ok (literals.map (fun text => single (.literal text)) ++ [single (.slot .simple name)]))
    (plain : ∀ text ∈ literals, '%' ∉ text.toList ∧ Unmarked text.toList) : r.EndsInSlot literals name :=
  ⟨Except.ok.inj (compiled.segments_read.symm.trans read), plain⟩

theorem EndsInSlot.isName (ends : r.EndsInSlot literals name) (compiled : Compiled d r) :
    Pattern.isName name.toList = true := by
  have last : single (.slot .simple name) ∈ r.segments := by
    rw [ends.segments_eq]
    exact List.mem_append_right _ List.mem_cons_self
  have part : .slot .simple name ∈ (single (.slot .simple name)).parts := List.mem_cons_self
  exact Pattern.isName_of_read compiled.segments_read last part

namespace HoldsTo

theorem parse?_slot (holds : r.HoldsTo name fragment n) (kind : SlotKind) :
    Node.parse? (slot r.validators kind name) = some n ∧ (slot r.validators kind name).head? ≠ some '?' := by
  rw [slot, holds.validator_eq]
  exact ⟨holds.complete, fun head => absurd (Option.some.inj head) (by decide)⟩

end HoldsTo

/-- The strict matcher finds the form of a value in the slot as the expression of the validator does. -/
theorem Compiled.findsSlot (compiled : Compiled d r) (ends : r.EndsInSlot literals name)
    (holds : r.HoldsTo name fragment n) {form : List Char} (present : form ≠ []) (slashless : '/' ∉ form) :
    FindsSlot r.matchers.strict name n.regex (frontOf literals) form := by
  have named := ends.isName compiled
  obtain ⟨complete, head⟩ := holds.parse?_slot .simple
  obtain ⟨whole, parsed, compiles⟩ := Option.bind_eq_some_iff.1 compiled.compile?_strict
  rw [(Matcher.compile?_eq_some compiles).1]
  rw [matcherText, ends.segments_eq] at parsed
  cases defaulted : r.defaults.contains name with
  | false =>
    rw [← literalSegments, Matcher.splitTail_required defaulted] at parsed
    rw [parse?_required named complete head parsed]
    exact finds_required n name _ form
  | true =>
    rw [← literalSegments, Matcher.splitTail_optional defaulted] at parsed
    rw [parse?_optional named complete head parsed]
    exact finds_optional n name _ present slashless

def lone (name v : String) : ParameterSet := .ofList [(name, .text v)]

theorem get?_lone (name v : String) : (lone name v).get? name = some (.text v) := by
  rw [lone, NameMap.ofList, List.foldl_cons, List.foldl_nil, NameMap.get?_insert, if_pos rfl]

theorem resolve?_lone (r : Route) (name : String) (present : v ≠ "") :
    r.resolve? (lone name v) name = some v := by
  rw [resolve?, ParameterSet.text?, get?_lone, Option.bind_some, ParamValue.text?, if_neg present]

namespace EndsInSlot

variable (ends : r.EndsInSlot literals name)
include ends

theorem segments_eq_map : r.segments = (literals.map Part.literal ++ [Part.slot .simple name]).map single := by
  rw [ends.segments_eq, List.map_append, List.map_map]
  rfl

theorem slots_eq : Matcher.slots r.segments = [(.simple, name)] := by
  have none : (literals.map Part.literal).filterMap Part.slot? = [] := by
    rw [List.filterMap_map]
    exact List.filterMap_eq_nil_iff.2 fun _ _ => rfl
  rw [ends.segments_eq_map, slots_map_single, List.filterMap_append, none]
  rfl

theorem params_eq : r.params = [name] := by
  rw [params, Matcher.names_eq_slots, ends.slots_eq]
  rfl

theorem reversible : r.Reversible := by
  refine ⟨fun s member => ?_, ?_, fun before s after split wild _ => ?_⟩
  · rw [ends.segments_eq] at member
    rcases List.mem_append.1 member with literal | last
    · obtain ⟨text, inside, rfl⟩ := List.mem_map.1 literal
      exact ⟨_, rfl, ends.plain text inside⟩
    · obtain rfl := List.mem_singleton.1 last
      exact ⟨_, rfl, trivial⟩
  · rw [ends.slots_eq]
    exact Nat.zero_le 1
  · obtain ⟨other, inside⟩ := wild
    have slot : (SlotKind.wildcard, other) ∈ Matcher.slots r.segments := by
      rw [split]
      exact List.mem_flatMap.2 ⟨s, by simp, List.mem_filterMap.2 ⟨_, inside, rfl⟩⟩
    rw [ends.slots_eq, List.mem_singleton] at slot
    cases slot

theorem parted (compiled : Compiled d r) :
    Parted r (literals.map Part.literal ++ [Part.slot .simple name]) := by
  obtain ⟨parts, parted⟩ := compiled.exists_parted ends.reversible
  have same := parted.segments_eq.symm.trans ends.segments_eq_map
  have injective : Function.Injective single := fun p q equal => by
    cases equal
    rfl
  rwa [List.map_injective_iff.2 injective same] at parted

theorem rendersFirst (present : v ≠ "") : r.RendersFirst (lone name v) r.segments.length := by
  have whole := congrArg List.length (Matcher.splitTail_append r.defaults r.segments)
  refine ⟨?_, Nat.le_refl _, fun s inside other named => ?_, fun s inside => ?_, fun other text slot => ?_⟩
  · rw [List.length_append] at whole
    exact Nat.le.intro whole
  · rw [List.take_length] at inside
    have own : other ∈ r.params := List.mem_flatMap.2 ⟨s, inside, named⟩
    rw [ends.params_eq, List.mem_singleton] at own
    rw [own, resolve?_lone r name present]
    rfl
  · rw [List.drop_length] at inside
    cases inside
  · rw [ends.slots_eq, List.mem_singleton] at slot
    cases slot

/-- The decoded path for a value: the literals as they are matched, and the form of the value. -/
theorem unescape_render (compiled : Compiled d r) (present : v ≠ "") :
    unescape (r.render (lone name v)) = frontOf literals ++ '/' :: matchedForm false v.toList := by
  have count : r.segments.length = (literals.map Part.literal ++ [Part.slot .simple name]).length := by
    rw [ends.segments_eq_map, List.length_map]
  have shown : r.shown (lone name v) (.slot .simple name) = settledValue false v.toList := by
    simp only [Route.shown, resolve?_lone r name present]
    rfl
  rw [(ends.parted compiled).unescape_render (ends.rendersFirst present), count, List.take_length,
    if_neg (by simp), List.map_append, path_append, List.map_singleton, path_singleton, shown, matchedForm_eq,
    List.map_map]
  rfl

end EndsInSlot

/-- The value comes back from the path that is rendered for it. -/
def Returns (r : Route) (name v : String) : Prop :=
  ∃ found, r.capture (unescape (r.render (lone name v))) = some found ∧ found.get? name = some (.text v)

instance (r : Route) (name v : String) : Decidable (r.Returns name v) :=
  decidable_of_iff ((r.capture (unescape (r.render (lone name v)))).bind (·.get? name) = some (.text v))
    Option.bind_eq_some_iff

/-- A value comes back just if the expression of the validator can take its form behind the rest of the
path. -/
theorem Compiled.returns_iff (compiled : Compiled d r) (ends : r.EndsInSlot literals name)
    (holds : r.HoldsTo name fragment n) (present : v ≠ "") :
    r.Returns name v ↔ n.regex.Fills (slotPlace (frontOf literals) (matchedForm false v.toList)) := by
  have shown : matchedForm false v.toList ≠ [] := by
    rw [matchedForm_eq]
    exact flatMap_ne_nil (by simpa using present) (settledAt_ne_nil false)
  have slashless : '/' ∉ matchedForm false v.toList := by
    rw [matchedForm_eq]
    exact slash_notMem_settledValue _
  have finds := compiled.findsSlot ends holds shown slashless
  rw [Returns, ends.unescape_render compiled present, capture]
  constructor
  · intro given
    obtain ⟨found, captured, _⟩ := given
    obtain ⟨k, matched, _⟩ := Option.map_eq_some_iff.1 captured
    exact finds.isSome_iff.1 (by rw [matched]; rfl)
  · intro fills
    obtain ⟨k, matched⟩ := Option.isSome_iff_exists.1 (finds.isSome_iff.2 fills)
    refine ⟨_, Option.map_eq_some_iff.2 ⟨k, matched, rfl⟩, ?_⟩
    rw [ends.params_eq, List.foldl_cons, List.foldl_nil, addCapture, finds.lookup_eq k matched]
    simp only [trim_of_bare (bare_of_notMem slashless), List.isEmpty_iff, shown, if_false]
    rw [NameMap.get?_insert, if_pos rfl, matchedForm_eq, restore_settledValue, String.ofList_toList]

/-- What generation accepts, the expression of the validator can take as a whole. -/
theorem Compiled.fills_of_accept (compiled : Compiled d r) (ends : r.EndsInSlot literals name)
    (holds : r.HoldsTo name fragment n) (present : v ≠ "")
    (accepted : (r.accept (lone name v)).isSome = true) :
    n.regex.Fills (.start v.toList) ∧ n.regex.Fills (.start (matchedForm false v.toList)) := by
  have own : name ∈ r.params := by
    rw [ends.params_eq]
    exact List.mem_singleton_self name
  obtain ⟨⟨kind, check⟩, found⟩ := Matcher.isSome_lookup_checks compiled.matchers_built own
  obtain ⟨slot, whole, written, limits⟩ := Matcher.exists_checkNode_of_lookup compiled.matchers_built found
  rw [ends.slots_eq, List.mem_singleton] at slot
  obtain rfl : kind = .simple := congrArg Prod.fst slot
  obtain ⟨complete, head⟩ := holds.parse?_slot .simple
  have text : "^(?:(?:".toList ++ fragment.toList ++ "))$".toList =
      "^(?:".toList ++ (Matcher.Strict.slot r.validators .simple name ++ ')' :: ['$']) := by
    rw [Matcher.Strict.slot, holds.validator_eq]
    simp
  rw [Matcher.checkNode?, holds.validator_eq] at written
  dsimp only at written
  rw [text] at written
  obtain ⟨rfl, _⟩ := Matcher.compile?_eq_some limits
  rw [parse?_check complete head written] at found
  have admitted : r.admits name (.text v) = true := by
    rw [accept_eq] at accepted
    split at accepted
    next given => exact List.all_eq_true.1 given.1 _ (NameMap.get?_eq_some_iff.1 (get?_lone name v))
    next => cases accepted
  rw [admits, found] at admitted
  simp only [slotAdmits, ParamValue.text?, if_neg present, Bool.and_eq_true, Matcher.isMatch_check] at admitted
  exact admitted

/-- The declaration compiles to a route that accepts the text for the name and is as asked. -/
def accepts (d : Declaration) (name v : String) (asked : Route → Bool) : Bool :=
  match compile d with
  | .ok r => (r.accept (lone name v)).isSome && asked r
  | .error _ => false

theorem exists_of_accepts {asked : Route → Bool} (run : accepts d name v asked = true) :
    ∃ r, compile d = .ok r ∧ (r.accept (lone name v)).isSome = true ∧ asked r = true := by
  rw [accepts] at run
  split at run
  next r compiled => exact ⟨r, compiled, Bool.and_eq_true_iff.1 run⟩
  next => cases run

/-- A value that generation accepts comes back, where the validator is an expression by itself and asks
for no start. In any case a value comes back just if the expression takes its form behind the rest of the
path. -/
theorem returns_accepted (compiled : compile d = .ok r) (ends : r.EndsInSlot literals name)
    (holds : r.HoldsTo name fragment n) (present : v ≠ "") :
    (n.regex.startless = true → (r.accept (lone name v)).isSome = true → r.Returns name v) ∧
      (r.Returns name v ↔ n.regex.Fills (slotPlace (frontOf literals) (matchedForm false v.toList))) := by
  have result := compile_eq_ok_iff.1 compiled
  have returns := result.returns_iff ends holds present
  refine ⟨fun startless accepted => returns.2 ?_, returns⟩
  exact (result.fills_of_accept ends holds present accepted).2.moved startless _

theorem returns_accepted_year : ∃ (r : Route) (n : Node),
    compile ⟨"posts/:id", none, .empty, .ofList [("id", "[a-z]+|[0-9]{4}$")]⟩ = .ok r ∧
      r.EndsInSlot ["posts"] "id" ∧ r.HoldsTo "id" "[a-z]+|[0-9]{4}$" n ∧ n.regex.startless = true ∧
      (r.accept (lone "id" "2024")).isSome = true ∧ r.Returns "id" "2024" := by
  have run : accepts ⟨"posts/:id", none, .empty, .ofList [("id", "[a-z]+|[0-9]{4}$")]⟩ "id" "2024"
      (fun _ => true) = true := by decide +kernel
  have parsed : (Node.parse? ("(?:".toList ++ "[a-z]+|[0-9]{4}$".toList ++ [')'])).any
      (·.regex.startless) = true := by decide +kernel
  obtain ⟨r, compiled, accepted, _⟩ := exists_of_accepts run
  obtain ⟨n, complete, startless⟩ := (Option.any_eq_true _ _).1 parsed
  have result := compile_eq_ok_iff.1 compiled
  have ends : r.EndsInSlot ["posts"] "id" := .of_read result (by decide +kernel) (by decide)
  have holds : r.HoldsTo "id" "[a-z]+|[0-9]{4}$" n := ⟨by rw [result.validators_eq]; decide, complete⟩
  exact ⟨r, n, compiled, ends, holds, startless, accepted,
    (returns_accepted compiled ends holds (by decide)).1 startless accepted⟩

/-- With the fragment as validator generation accepts the text, and recognition does not give it back. -/
def Lost (fragment v : String) : Prop :=
  ∃ r, compile ⟨"x/:id", none, .empty, .ofList [("id", fragment)]⟩ = .ok r ∧ r.EndsInSlot ["x"] "id" ∧
    r.validators.get? "id" = some fragment ∧ (r.accept (lone "id" v)).isSome = true ∧ ¬r.Returns "id" v

theorem lost_of_accepts (run : accepts ⟨"x/:id", none, .empty, .ofList [("id", fragment)]⟩ "id" v
    (fun r => !decide (r.Returns "id" v)) = true) : Lost fragment v := by
  have read : Pattern.read "x/:id" = .ok (["x"].map (fun text => single (.literal text)) ++
      [single (.slot .simple "id")]) := by decide +kernel
  obtain ⟨r, compiled, accepted, lost⟩ := exists_of_accepts run
  have result := compile_eq_ok_iff.1 compiled
  refine ⟨r, compiled, .of_read result read (by decide), ?_, accepted, by simpa using lost⟩
  rw [result.validators_eq]
  simp [NameMap.ofList]

/-- Not every value that generation accepts comes back: one for a validator that asks for the start does
not, nor one for a validator that is no expression by itself, nor the empty text, which is no value. -/
theorem not_every_accepted_returns :
    Lost "^a" "a" ∧ Lost "a))$|(?:(?:b" "zb" ∧ Lost "a" "" :=
  ⟨lost_of_accepts (by decide +kernel), lost_of_accepts (by decide +kernel),
    lost_of_accepts (by decide +kernel)⟩

end Route

end UrlRouting
