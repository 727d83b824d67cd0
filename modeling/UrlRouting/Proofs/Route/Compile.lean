import UrlRouting.Route.Basic

/-! What compiling a declaration gives: everything but the segments and the matchers is kept as it
was declared, and the matchers depend on the segments, the defaults and the validators alone. -/

namespace UrlRouting.Route
open Matcher

/-- The route is what the declaration compiles to. -/
structure Compiled (d : Declaration) (r : Route) : Prop where
  segments_read : Pattern.read d.pattern = .ok r.segments
  matchers_built : build? r.segments r.defaults r.validators = some r.matchers
  pattern_eq : r.pattern = Pattern.normalize d.pattern
  alias_eq : r.aliasName = d.aliasName
  defaults_eq : r.defaults = d.defaults
  validators_eq : r.validators = d.validators

theorem compile_eq_ok_iff {d : Declaration} {r : Route} : compile d = .ok r ↔ Compiled d r := by
  constructor
  · intro compiled
    unfold compile at compiled
    split at compiled
    next => cases compiled
    next segments read =>
      split at compiled
      next => cases compiled
      next matchers built =>
        cases compiled
        exact ⟨read, built, rfl, rfl, rfl, rfl⟩
  · intro compiled
    obtain ⟨pattern, aliasName, defaults, validators, segments, matchers⟩ := r
    obtain ⟨read, built, rfl, rfl, rfl, rfl⟩ := compiled
    simp only [compile, read, built]

theorem exists_compile {d : Declaration} (compiles : (compile d).isOk = true) :
    ∃ r, compile d = .ok r := by
  cases result : compile d with
  | ok r => exact ⟨r, rfl⟩
  | error e =>
    rw [result] at compiles
    cases compiles

/-- No parameter of the route has a validator. -/
def Unvalidated (r : Route) : Prop := ∀ name ∈ r.params, r.validators.contains name = false

end UrlRouting.Route

namespace UrlRouting.Matcher
open Regex

theorem compile?_eq_some {n : Node} {r : Regex} (compiled : n.compile? = some r) :
    r = n.regex ∧ n.regex.groupNames.Nodup := by
  unfold Node.compile? at compiled
  split at compiled
  next limits =>
    cases compiled
    exact ⟨rfl, limits.2.1⟩
  next => cases compiled

theorem build?_eq_some {segments : List Segment} {defaults : ParameterSet} {validators : Validators}
    {m : Matchers} (built : build? segments defaults validators = some m) :
    (Shape.node (splitTail defaults segments).1 (splitTail defaults segments).2).compile? = some m.shape ∧
      strict? segments (splitTail defaults segments).1 (splitTail defaults segments).2 validators
        m.shape = some m.strict ∧
      (slots segments).mapM (fun s => check? validators s.1 s.2) = some m.checks := by
  simp only [build?, Option.bind_eq_bind, Option.bind_eq_some_iff, Option.some.injEq] at built
  obtain ⟨shape, compiled, strict, chosen, checks, checked, rfl⟩ := built
  exact ⟨compiled, chosen, checked⟩

theorem shape_of_build? {segments : List Segment} {defaults : ParameterSet} {validators : Validators}
    {m : Matchers} (built : build? segments defaults validators = some m) :
    m.shape = (Shape.node (splitTail defaults segments).1 (splitTail defaults segments).2).regex :=
  (compile?_eq_some (build?_eq_some built).1).1

/-- Without validators for the slots the strict matcher is the shape. -/
theorem strict_of_build? {segments : List Segment} {defaults : ParameterSet} {validators : Validators}
    {m : Matchers} (built : build? segments defaults validators = some m)
    (free : ∀ s ∈ slots segments, validators.contains s.2 = false) : m.strict = m.shape := by
  have chosen := (build?_eq_some built).2.1
  have unused : ¬((slots segments).any fun s => validators.contains s.2) = true := by
    simpa using free
  rw [strict?, if_neg unused] at chosen
  exact (Option.some.inj chosen).symm

theorem names_eq_slots (segments : List Segment) :
    Pattern.names segments = (slots segments).map (·.2) := by
  have parts : Segment.names = fun s => (s.parts.filterMap Part.slot?).map (·.2) := by
    funext s
    rw [Segment.names, List.map_filterMap]
    rfl
  rw [Pattern.names, parts, slots, List.map_flatMap]

end UrlRouting.Matcher

namespace UrlRouting.Route

theorem Compiled.shape_eq {d : Declaration} {r : Route} (compiled : Compiled d r) :
    r.matchers.shape = (Matcher.Shape.node (Matcher.splitTail r.defaults r.segments).1
      (Matcher.splitTail r.defaults r.segments).2).regex :=
  Matcher.shape_of_build? compiled.matchers_built

theorem Compiled.strict_eq {d : Declaration} {r : Route} (compiled : Compiled d r)
    (unvalidated : r.Unvalidated) : r.matchers.strict = r.matchers.shape := by
  apply Matcher.strict_of_build? compiled.matchers_built
  intro s member
  apply unvalidated
  rw [params, Matcher.names_eq_slots]
  exact List.mem_map_of_mem member

end UrlRouting.Route
