import UrlRouting.Proofs.Namespace.Built
import UrlRouting.Proofs.Namespace.Generation
import UrlRouting.Proofs.Namespace.Registration

/-! Generation with an alias and without. Both take the first route that accepts the parameters, one of those
that carry the alias and one of all, so they part only where a route before has another alias, or where the
root route goes before the others for want of parameters. -/

namespace UrlRouting.Namespace

variable {ns : Namespace} {params : ParameterSet} {r : Route} {a : String}

theorem firstRoute?_alias (ns : Namespace) (a : String) (params : ParameterSet) :
    ns.firstRoute? (some a) params =
      ns.table.routes.find? fun r => decide (r.aliasName = some a ∧ (r.accept params).isSome = true) := by
  simp only [firstRoute?, List.find?_filter, Option.all_some, beq_iff_eq]

/-- The first route of all is the first of those that share its alias. -/
theorem firstRoute?_of_alias (first : ns.firstRoute? none params = some r) (named : r.aliasName = some a) :
    ns.firstRoute? (some a) params = some r := by
  rw [firstRoute?_none, List.find?_eq_some_iff_append] at first
  obtain ⟨admitted, before, after, split, refuse⟩ := first
  rw [firstRoute?_alias, List.find?_eq_some_iff_append]
  refine ⟨decide_eq_true ⟨named, admitted⟩, before, after, split, fun q member => ?_⟩
  -- what stands before accepts nothing, whether it has the alias or not
  simp only [Bool.not_eq_true'] at refuse ⊢
  exact decide_eq_false fun both => Bool.noConfusion ((refuse q member).symm.trans both.2)

theorem exists_firstRoute? (found : ns.firstRoute? (some a) params = some r) :
    ∃ s, ns.firstRoute? none params = some s := by
  rw [firstRoute?_alias] at found
  have carries := List.find?_some found
  rw [firstRoute?_none, ← Option.isSome_iff_exists, List.find?_isSome]
  exact ⟨r, List.mem_of_find?_eq_some found, (of_decide_eq_true carries).2⟩

theorem rootFor?_eq_none (built : ns.Built)
    (rootless : ¬(params.isEmpty = true ∧ ∃ r ∈ ns.table.routes, r.pattern = "/")) :
    ns.rootFor? params = none := by
  refine Option.eq_none_iff_forall_ne_some.2 fun r root => rootless ?_
  obtain ⟨rfl, found⟩ := eq_of_rootFor? root
  exact ⟨rfl, r, built.indexed.get?_eq_some_iff.1 found⟩

/-- What is generated with an alias is generated without one, if perhaps by a route before. What a route
with an alias generates is generated with the alias, unless the root route was preferred for want of
parameters. -/
theorem generate_agrees_with_alias (built : ns.Built) (params : ParameterSet) (suffix : Suffix) :
    (∀ a g, ns.generateByAlias a params suffix = some g → ∃ h, ns.generate params suffix = some h) ∧
    (¬(params.isEmpty = true ∧ ∃ r ∈ ns.table.routes, r.pattern = "/") →
      ∀ g a, ns.generate params suffix = some g → g.route.aliasName = some a →
        ns.generateByAlias a params suffix = some g) := by
  refine ⟨fun a g found => ?_, fun rootless g a found named => ?_⟩
  · rw [generateByAlias, firstAccepting?_eq] at found
    obtain ⟨r, first, _⟩ := Option.map_eq_some_iff.1 found
    obtain ⟨s, first⟩ := exists_firstRoute? first
    rw [generate_eq, chosen?, first, Option.or_some]
    exact ⟨_, rfl⟩
  · rw [generate_eq, chosen?, rootFor?_eq_none built rootless, Option.none_or] at found
    obtain ⟨r, first, rfl⟩ := Option.map_eq_some_iff.1 found
    rw [generateByAlias, firstAccepting?_eq, firstRoute?_of_alias first named]
    rfl

/-- An alias that two routes share, of which the first refuses the parameters. -/
theorem generate_agrees_with_alias_shared : ∃ (ns : Namespace) (g : Generated), ns.Built ∧
    (ns.table.routes.map (·.aliasName)) = [some "post", some "post"] ∧
    ns.generate (.ofList [("id", .text "x")]) .none = some g ∧ g.url = "/p/x" ∧
    ns.generateByAlias "post" (.ofList [("id", .text "x")]) .none = some g ∧
    ((∀ a g, ns.generateByAlias a (.ofList [("id", .text "x")]) .none = some g →
      ∃ h, ns.generate (.ofList [("id", .text "x")]) .none = some h) ∧
    (¬(NameMap.isEmpty (.ofList [("id", ParamValue.text "x")]) = true ∧
        ∃ r ∈ ns.table.routes, r.pattern = "/") →
      ∀ g a, ns.generate (.ofList [("id", .text "x")]) .none = some g → g.route.aliasName = some a →
        ns.generateByAlias a (.ofList [("id", .text "x")]) .none = some g)) := by
  have run : (((new "").register ⟨"posts/:id", some "post", .empty, .ofList [("id", "[0-9]+")]⟩).toOption.bind
      fun one => (one.state.register ⟨"p/:id", some "post", .empty, .empty⟩).toOption.bind fun two =>
        (two.state.generate (.ofList [("id", .text "x")]) .none).filter fun g =>
          g.url == "/p/x" && g.route.aliasName == some "post" &&
            two.state.table.routes.map (·.aliasName) == [some "post", some "post"]).isSome = true := by
    decide +kernel
  obtain ⟨one, first⟩ := (new "").exists_registered
    (d := ⟨"posts/:id", some "post", .empty, .ofList [("id", "[0-9]+")]⟩) (by decide +kernel)
  obtain ⟨two, second⟩ := one.state.exists_registered
    (d := ⟨"p/:id", some "post", .empty, .empty⟩) (by decide +kernel)
  rw [first, Except.toOption, Option.bind_some, second, Except.toOption, Option.bind_some] at run
  obtain ⟨g, outcome⟩ := Option.isSome_iff_exists.1 run
  obtain ⟨generated, outcome⟩ := Option.filter_eq_some_iff.1 outcome
  simp only [Bool.and_eq_true, beq_iff_eq] at outcome
  obtain ⟨⟨url, named⟩, aliases⟩ := outcome
  have built : two.state.Built := .register (.register (.new "") first) second
  have agrees := generate_agrees_with_alias built (.ofList [("id", .text "x")]) .none
  have given : ¬(NameMap.isEmpty (.ofList [("id", ParamValue.text "x")]) = true ∧
      ∃ r ∈ two.state.table.routes, r.pattern = "/") := fun both => absurd both.1 (by decide)
  exact ⟨two.state, g, built, aliases, generated, url, agrees.2 given g "post" generated named, agrees⟩

end UrlRouting.Namespace
