import Mathlib.Data.List.Basic
import UrlRouting.Namespace.Generation
import UrlRouting.Proofs.Route.Accept
import UrlRouting.Proofs.Route.Table

/-! What generation gives. Whichever way a route is chosen, it stands in the table, and renders the
parameters as they were supplied. The choice does not depend on the suffix. -/

namespace UrlRouting.Namespace

variable {ns : Namespace} {supplied : ParameterSet} {suffix : Suffix} {aliasName : Option String}
  {r : Route} {g : Generated}

/-- The first route that accepts the parameters, of those that carry the alias if one is given. -/
def firstRoute? (ns : Namespace) (aliasName : Option String) (supplied : ParameterSet) : Option Route :=
  (ns.table.routes.filter fun r => aliasName.all fun wanted => r.aliasName == some wanted).find?
    fun r => (r.accept supplied).isSome

/-- The route that generates from the parameters. -/
def chosen? (ns : Namespace) (supplied : ParameterSet) : Option Route :=
  (ns.rootFor? supplied).or (ns.firstRoute? none supplied)

theorem firstRoute?_none (ns : Namespace) (supplied : ParameterSet) :
    ns.firstRoute? none supplied = ns.table.routes.find? fun r => (r.accept supplied).isSome :=
  congrArg (List.find? _) (List.filter_true _)

theorem mem_of_firstRoute? (first : ns.firstRoute? aliasName supplied = some r) : r ∈ ns.table.routes :=
  List.mem_of_mem_filter (List.mem_of_find?_eq_some first)

theorem eq_of_rootFor? (root : ns.rootFor? supplied = some r) :
    supplied = NameMap.empty ∧ ns.table.get? "/" = some r := by
  unfold rootFor? at root
  split at root
  next missing =>
    obtain ⟨entries, _⟩ := supplied
    obtain rfl := List.isEmpty_iff.1 missing
    exact ⟨rfl, root⟩
  next => cases root

theorem mem_of_chosen? (chosen : ns.chosen? supplied = some r) : r ∈ ns.table.routes := by
  rcases Option.or_eq_some_iff.1 chosen with root | ⟨_, first⟩
  · exact RouteTable.mem_of_get? (eq_of_rootFor? root).2
  · exact mem_of_firstRoute? first

theorem firstAccepting?_eq (ns : Namespace) (aliasName : Option String) (supplied : ParameterSet)
    (suffix : Suffix) : ns.firstAccepting? aliasName supplied suffix =
      (ns.firstRoute? aliasName supplied).map fun r => ns.assemble r supplied suffix := by
  unfold firstAccepting? firstRoute?
  generalize List.filter _ ns.table.routes = candidates
  induction candidates with
  | nil => rfl
  | cons r candidates ih =>
    rw [List.findSome?_cons, List.find?_cons]
    cases accepted : r.accept supplied with
    | some set =>
      rw [Route.eq_of_accept accepted]
      rfl
    | none => exact ih

theorem generate_eq (ns : Namespace) (supplied : ParameterSet) (suffix : Suffix) :
    ns.generate supplied suffix = (ns.chosen? supplied).map fun r => ns.assemble r supplied suffix := by
  unfold generate chosen?
  cases root : ns.rootFor? supplied with
  | some r =>
    rw [(eq_of_rootFor? root).1]
    rfl
  | none => exact ns.firstAccepting?_eq none supplied suffix

theorem firstAccepting?_eq_some (found : ns.firstAccepting? aliasName supplied suffix = some g) :
    g.route ∈ ns.table.routes ∧ g = ns.assemble g.route supplied suffix := by
  rw [firstAccepting?_eq] at found
  obtain ⟨r, first, rfl⟩ := Option.map_eq_some_iff.1 found
  exact ⟨mem_of_firstRoute? first, rfl⟩

theorem generate_eq_some (found : ns.generate supplied suffix = some g) :
    g.route ∈ ns.table.routes ∧ g = ns.assemble g.route supplied suffix := by
  rw [generate_eq] at found
  obtain ⟨r, chosen, rfl⟩ := Option.map_eq_some_iff.1 found
  exact ⟨mem_of_chosen? chosen, rfl⟩

theorem toList_assemble (ns : Namespace) (r : Route) (supplied : ParameterSet) (suffix : Suffix) :
    (ns.assemble r supplied suffix).url.toList = ns.embed (r.render supplied) suffix :=
  String.toList_ofList

end UrlRouting.Namespace
