import UrlRouting.Proofs.Namespace.Equivalence

/-! Which URLs are unknown. This is told by the shapes of the routes, that is by their patterns and the
names of their defaults; what the validators, the values and the aliases are makes no difference. -/

namespace UrlRouting.Namespace
open Percent

variable {ns ns' : Namespace}

/-- One mount point and script name, and in order routes with the same patterns and names of defaults. -/
structure Kindred (ns ns' : Namespace) : Prop where
  built : ns.Built
  built' : ns'.Built
  mount_eq : ns.mount = ns'.mount
  script_eq : ns.scriptName = ns'.scriptName
  routes : List.Forall₂ Route.Kindred ns.table.routes ns'.table.routes

theorem rel_head? {α β : Type} {R : α → β → Prop} {xs : List α} {ys : List β} {x : α} {y : β}
    (related : List.Forall₂ R xs ys) (here : xs.head? = some x) (there : ys.head? = some y) : R x y := by
  cases related with
  | nil => cases here
  | cons first rest =>
    obtain rfl := Option.some.inj here
    obtain rfl := Option.some.inj there
    exact first

theorem verdict_outcome_eq_none {path : List Char} {candidates : List Route} :
    (outcome path candidates).verdict = .ok none ↔ candidates = [] := by
  unfold outcome
  cases candidates with
  | nil => exact iff_of_true rfl rfl
  | cons first rest =>
    refine iff_of_false (fun unknown => ?_) (List.cons_ne_nil _ _)
    split at unknown <;> cases unknown

theorem head?_of_verdict_outcome {path : List Char} {candidates : List Route} {r : Route}
    (refused : (outcome path candidates).verdict = .error r) : candidates.head? = some r := by
  unfold outcome at refused
  split at refused
  next => cases refused
  next =>
    split at refused
    next =>
      cases refused
      rfl
    next => cases refused

theorem Kindred.candidates (kindred : ns.Kindred ns') (path : List Char) :
    List.Forall₂ (ns.Across ns') (ns.table.routes.filter (·.matchesShape path))
      (ns'.table.routes.filter (·.matchesShape path)) := by
  have shapes : List.Forall₂ (fun r s => ns.Across ns' r s ∧ r.matchesShape path = s.matchesShape path)
      ns.table.routes ns'.table.routes := by
    refine (forall₂_across kindred.routes).imp fun r s both => ⟨both.1, ?_⟩
    obtain ⟨d, e, compiled, compiled'⟩ := both.1.compiled kindred.built kindred.built'
    exact compiled.matchesShape_eq compiled' both.2 path
  refine (List.rel_filter (fun r s both => ?_) shapes).imp fun _ _ both => both.1
  dsimp only
  rw [both.2]

/-- Whether a URL is unknown depends on the patterns and the names of the defaults alone, and so does the
place of the route that is named where its values are invalid for both. -/
theorem unknown_ignores_content (kindred : ns.Kindred ns') (url : String) :
    ((ns.recognize url).verdict = .ok none ↔ (ns'.recognize url).verdict = .ok none) ∧
    ∀ r s, (ns.recognize url).verdict = .error r → (ns'.recognize url).verdict = .error s →
      ns.Across ns' r s := by
  have same : ns.localPath? url.toList = ns'.localPath? url.toList := by
    rw [localPath?, localPath?, kindred.mount_eq, kindred.script_eq]
  cases here : ns.localPath? url.toList with
  | none =>
    rw [recognize_eq_outside here, recognize_eq_outside (same.symm.trans here)]
    refine ⟨Iff.rfl, fun r s refused => ?_⟩
    cases refused
  | some path =>
    rw [recognize_eq_outcome here, recognize_eq_outcome (same.symm.trans here)]
    have candidates := kindred.candidates (unescape path)
    refine ⟨?_, fun r s refused refused' => ?_⟩
    · rw [verdict_outcome_eq_none, verdict_outcome_eq_none, ← List.length_eq_zero_iff,
        candidates.length_eq, List.length_eq_zero_iff]
    · exact rel_head? candidates (head?_of_verdict_outcome refused) (head?_of_verdict_outcome refused')

/-- Routes that refuse one text for different reasons. -/
theorem unknown_ignores_content_refused : ∃ (ns ns' : Namespace) (r s : Route),
    ns.table.routes = [r] ∧ ns'.table.routes = [s] ∧ r.defaults.get? "page" = some (.int 1) ∧
    s.defaults.get? "page" = some .absent ∧ ns.Kindred ns' ∧
    (∃ q, (ns.recognize "/posts/A1").verdict = .error q) ∧
    (∃ q, (ns'.recognize "/posts/A1").verdict = .error q) ∧
    ((ns.recognize "/posts/A1").verdict = .ok none ↔ (ns'.recognize "/posts/A1").verdict = .ok none) ∧
    ∀ r s, (ns.recognize "/posts/A1").verdict = .error r → (ns'.recognize "/posts/A1").verdict = .error s →
      ns.Across ns' r s := by
  have run : refuses ⟨"posts/:id/:page", some "posts", .ofList [("page", .int 1)],
      .ofList [("id", "[0-9]+")]⟩ "/posts/A1" = true := by decide +kernel
  have run' : refuses ⟨"/posts/:id/:page", none, .ofList [("page", .absent)],
      .ofList [("id", "[a-z]+")]⟩ "/posts/A1" = true := by decide +kernel
  obtain ⟨one, r, _, _, registered, refused⟩ := exists_of_refuses run
  obtain ⟨other, s, _, _, registered', refused'⟩ := exists_of_refuses run'
  obtain ⟨compiled, state, _⟩ := register_eq_ok registered
  obtain ⟨compiled', state', _⟩ := register_eq_ok registered'
  have routes : one.state.table.routes = [one.route] := by rw [state]; rfl
  have routes' : other.state.table.routes = [other.route] := by rw [state']; rfl
  have route : one.route.Kindred other.route := by
    refine ⟨?_, fun name => ?_⟩
    · rw [compiled.pattern_eq, compiled'.pattern_eq]
      decide
    · rw [compiled.defaults_eq, compiled'.defaults_eq, Bool.eq_iff_iff, NameMap.contains_iff,
        NameMap.contains_iff]
      exact Iff.rfl
  have kindred : one.state.Kindred other.state := by
    refine ⟨.register (.new "") registered, .register (.new "") registered', ?_, ?_, ?_⟩
    · rw [state, state']
    · rw [state, state']
    · rw [routes, routes']
      exact .cons route .nil
  refine ⟨one.state, other.state, one.route, other.route, routes, routes', ?_, ?_, kindred, ⟨r, ?_⟩, ⟨s, ?_⟩,
    unknown_ignores_content kindred "/posts/A1"⟩
  · rw [compiled.defaults_eq]
    decide
  · rw [compiled'.defaults_eq]
    decide
  · rw [refused, Recognition.verdict]
  · rw [refused', Recognition.verdict]

end UrlRouting.Namespace
