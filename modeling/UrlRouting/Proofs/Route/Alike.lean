import UrlRouting.Proofs.Pattern.Normal
import UrlRouting.Proofs.Route.Accept
import UrlRouting.Proofs.Route.Compile
import UrlRouting.Proofs.Value

/-! Routes with equivalent defaults. Which segments are optional depends on the names of the defaults
alone, and all else on the texts of their values, so such routes match, accept and render alike. Routes
whose defaults have the same names, whatever the values, have the same shape. -/

namespace UrlRouting

namespace Matcher

variable {p q : ParameterSet}

theorem splitTail_congr (contains : p.contains = q.contains) (segments : List Segment) :
    splitTail p segments = splitTail q segments := by
  have optional : isOptional p = isOptional q := by
    funext s
    rw [isOptional, isOptional, contains]
  rw [splitTail, splitTail, optional]

theorem build?_congr (alike : p.Alike q) (segments : List Segment) (validators : Validators) :
    build? segments p validators = build? segments q validators := by
  rw [build?, build?, splitTail_congr (funext alike.contains_eq)]

end Matcher

namespace Route

/-- One pattern, alias and set of validators, and equivalent defaults. -/
structure Alike (r s : Route) : Prop where
  pattern_eq : r.pattern = s.pattern
  alias_eq : r.aliasName = s.aliasName
  validators_eq : r.validators = s.validators
  defaults : r.defaults.Alike s.defaults

/-- Routes that are alike down to their matchers. -/
structure Twin (r s : Route) : Prop extends Alike r s where
  segments_eq : r.segments = s.segments
  matchers_eq : r.matchers = s.matchers

theorem Alike.refl (r : Route) : r.Alike r := ⟨rfl, rfl, rfl, .refl _⟩

variable {d e : Declaration} {r s : Route} {p q : ParameterSet}

theorem Compiled.segments_eq (compiled : Compiled d r) (compiled' : Compiled e s)
    (same : r.pattern = s.pattern) : r.segments = s.segments := by
  rw [compiled.pattern_eq, compiled'.pattern_eq] at same
  exact Pattern.eq_of_normalize_eq compiled.segments_read compiled'.segments_read same

/-- One pattern, and defaults for the same parameters. -/
structure Kindred (r s : Route) : Prop where
  pattern_eq : r.pattern = s.pattern
  contains_eq : ∀ name, r.defaults.contains name = s.defaults.contains name

theorem Compiled.matchesShape_eq (compiled : Compiled d r) (compiled' : Compiled e s)
    (kindred : r.Kindred s) (path : List Char) : r.matchesShape path = s.matchesShape path := by
  have tails := Matcher.splitTail_congr (funext kindred.contains_eq) s.segments
  rw [matchesShape, matchesShape, compiled.shape_eq, compiled'.shape_eq,
    compiled.segments_eq compiled' kindred.pattern_eq, tails]

theorem Compiled.twin (compiled : Compiled d r) (compiled' : Compiled e s) (alike : r.Alike s) :
    r.Twin s := by
  have segments := compiled.segments_eq compiled' alike.pattern_eq
  have built := compiled.matchers_built
  rw [segments, Matcher.build?_congr alike.defaults, alike.validators_eq] at built
  exact ⟨alike, segments, Option.some.inj (built.symm.trans compiled'.matchers_built)⟩

namespace Twin

theorem params_eq (twin : r.Twin s) : r.params = s.params := by
  rw [params, params, twin.segments_eq]

theorem required_eq (twin : r.Twin s) : r.required = s.required := by
  have contains : r.defaults.contains = s.defaults.contains := funext twin.defaults.contains_eq
  rw [required, required, twin.params_eq, contains]

theorem maxKeys_eq (twin : r.Twin s) : r.maxKeys = s.maxKeys := by
  rw [maxKeys, maxKeys, keys, keys, twin.params_eq, twin.defaults.names_eq]

theorem matchesShape_eq (twin : r.Twin s) (path : List Char) :
    r.matchesShape path = s.matchesShape path := by
  rw [matchesShape, matchesShape, twin.matchers_eq]

theorem admits_eq (twin : r.Twin s) (name : String) {v w : ParamValue} (same : v.text? = w.text?) :
    r.admits name v = s.admits name w := by
  have default := twin.defaults.get?_eq name
  rw [admits, admits, twin.matchers_eq]
  cases s.matchers.checks.lookup name with
  | some check => simp only [slotAdmits, same]
  | none =>
    cases here : r.defaults.get? name <;> cases there : s.defaults.get? name <;>
      simp_all [ParamValue.equivalent]

theorem isSome_accept (twin : r.Twin s) (alike : p.Alike q) : (r.accept p).isSome = (s.accept q).isSome := by
  have admitted : p.entries.all (fun e => r.admits e.1 e.2) = q.entries.all fun e => s.admits e.1 e.2 := by
    have agree := ParameterSet.alike_iff_forall₂.1 alike
    generalize p.entries = entries, q.entries = entries' at agree
    induction agree with
    | nil => rfl
    | cons first _ ih => rw [List.all_cons, List.all_cons, ih, first.1, twin.admits_eq _ first.2]
  have contains : p.contains = q.contains := funext alike.contains_eq
  rw [accept_eq, accept_eq, admitted, alike.size_eq, twin.maxKeys_eq, twin.required_eq, contains]
  split <;> rfl

theorem resolve?_eq (twin : r.Twin s) (alike : p.Alike q) (name : String) :
    r.resolve? p name = s.resolve? q name := by
  rw [resolve?, resolve?, alike.text?_eq, twin.defaults.text?_eq]

theorem render_eq (twin : r.Twin s) (alike : p.Alike q) : r.render p = s.render q := by
  have parts : r.renderPart p = s.renderPart q := by
    funext part
    cases part with
    | literal text => rfl
    | slot kind name => rw [renderPart, renderPart, twin.resolve?_eq alike]
  have segments : r.renderSegment p = s.renderSegment q := by
    funext segment
    rw [renderSegment, renderSegment, parts]
  rw [render, render, twin.segments_eq, segments]

theorem capture (twin : r.Twin s) (path : List Char) :
    Option.Rel ParameterSet.Alike (r.capture path) (s.capture path) := by
  have added (captures : List (String × List Char)) (names : List String) {a b : ParameterSet}
      (alike : a.Alike b) :
      ParameterSet.Alike (names.foldl (addCapture captures) a) (names.foldl (addCapture captures) b) := by
    induction names generalizing a b with
    | nil => exact alike
    | cons name names ih =>
      apply ih
      unfold addCapture
      split
      · exact alike
      · dsimp only
        split
        · exact alike
        · exact alike.insert name _
  rw [Route.capture, Route.capture, twin.matchers_eq, twin.params_eq]
  cases s.matchers.strict.search path with
  | none => exact .none
  | some captures => exact .some (added captures s.params twin.defaults)

end Twin

end Route

end UrlRouting
