import UrlRouting.Namespace.Generation
import UrlRouting.Proofs.Namespace.Built

/-! What registering a route does. The table keeps the routes in the order in which their patterns first
came; a route that is new comes last, so it decides only what no route before it has decided. -/

namespace UrlRouting
open Percent

/-- What an outcome may become when a route is put last. It stays as it was, but where no route captured
the path the last one may capture it, or be the first to have its shape. -/
inductive Recognition.Extended (last : Route) : Recognition → Recognition → Prop
  | matched (r : Route) (path : String) (found : ParameterSet) :
      Extended last (.matched r path found) (.matched r path found)
  | invalid (r : Route) (path : String) {count count' : Nat} (least : count ≤ count') :
      Extended last (.invalid r path count) (.invalid r path count')
  | invalid_captured {r : Route} {path : String} {count : Nat} {found : ParameterSet}
      (captured : last.capture (unescape path.toList) = some found) :
      Extended last (.invalid r path count) (.matched last path found)
  | unknown (path : String) : Extended last (.unknown path) (.unknown path)
  | unknown_captured {path : String} {found : ParameterSet}
      (captured : last.capture (unescape path.toList) = some found) :
      Extended last (.unknown path) (.matched last path found)
  | unknown_shaped (path : String) : Extended last (.unknown path) (.invalid last path 1)
  | outside : Extended last .outside .outside

theorem Recognition.Extended.refl (last : Route) (before : Recognition) :
    Recognition.Extended last before before := by
  cases before with
  | matched r path found => exact .matched r path found
  | invalid r path count => exact .invalid r path (Nat.le_refl _)
  | unknown path => exact .unknown path
  | outside => exact .outside

namespace Namespace

variable {ns ns' : Namespace} {d : Declaration} {done : Registration}

theorem extended_outcome (path : List Char) (candidates : List Route) (last : Route) :
    Recognition.Extended last (outcome path candidates) (outcome path (candidates ++ [last])) := by
  have after : firstCapture? (unescape path) (candidates ++ [last]) =
      (firstCapture? (unescape path) candidates).or
        ((last.capture (unescape path)).map fun params => (last, params)) := by
    rw [firstCapture?, List.findSome?_append, List.findSome?_singleton]
    rfl
  unfold outcome
  rw [after]
  cases firstCapture? (unescape path) candidates with
  | some first => exact .matched first.1 _ first.2
  | none =>
    cases captured : last.capture (unescape path) with
    | some found =>
      have from_text : last.capture (unescape (String.ofList path).toList) = some found := by
        rw [String.toList_ofList, captured]
      cases candidates with
      | nil => exact .unknown_captured from_text
      | cons first rest => exact .invalid_captured from_text
    | none =>
      cases candidates with
      | nil => exact .unknown_shaped _
      | cons first rest =>
        refine .invalid first _ ?_
        rw [List.length_append]
        exact Nat.le_add_right _ _

theorem exists_registered (ns : Namespace) (compiles : (Route.compile d).isOk = true) :
    ∃ done, ns.register d = .ok done := by
  obtain ⟨r, compiled⟩ := Route.exists_compile compiles
  exact ⟨_, by rw [register, compiled]; rfl⟩

theorem byPattern?_register (built : ns.Built) (registered : ns.register d = .ok done) {q : String}
    (same : Slash.trim q.toList = Slash.trim d.pattern.toList) :
    done.state.byPattern? q = some done.route := by
  obtain ⟨compiled, state, _⟩ := register_eq_ok registered
  have pattern : Pattern.normalize q = done.route.pattern := by
    rw [compiled.pattern_eq, Pattern.normalize, Pattern.normalize, Slash.rooted, Slash.rooted, same]
  rw [state, byPattern?, pattern]
  exact (built.indexed.get?_insert _ _).trans (if_pos rfl)

theorem register_known (built : ns.Built) (registered : ns.register d = .ok done) {place : Nat}
    {old : Route} (here : ns.table.routes[place]? = some old)
    (known : old.pattern = Pattern.normalize d.pattern) : done.replaced = true ∧
      done.state = { ns with table := { ns.table with routes := ns.table.routes.set place done.route } } := by
  obtain ⟨compiled, state, replaced⟩ := register_eq_ok registered
  have found : ns.table.places.get? done.route.pattern = some place := by
    rw [compiled.pattern_eq, ← known]
    exact (built.indexed _ _).2 (RouteTable.getElem?_patterns.2 ⟨old, here, rfl⟩)
  have put : ns.table.put done.route =
      ⟨{ ns.table with routes := ns.table.routes.set place done.route }, true⟩ := by
    rw [RouteTable.put, found]
  rw [state, replaced, RouteTable.insert, put]
  exact ⟨rfl, rfl⟩

/-- The second namespace has one route more, behind those of the first. -/
structure Appended (ns : Namespace) (last : Route) (ns' : Namespace) : Prop where
  mount_eq : ns'.mount = ns.mount
  script_eq : ns'.scriptName = ns.scriptName
  routes_eq : ns'.table.routes = ns.table.routes ++ [last]
  get?_eq : ∀ pattern ≠ last.pattern, ns'.table.get? pattern = ns.table.get? pattern

theorem appended_register (built : ns.Built) (registered : ns.register d = .ok done)
    (fresh : ∀ r ∈ ns.table.routes, r.pattern ≠ Pattern.normalize d.pattern) :
    ns.Appended done.route done.state := by
  obtain ⟨compiled, state, _⟩ := register_eq_ok registered
  have unknown : done.route.pattern ∉ ns.table.patterns := by
    rw [RouteTable.mem_patterns, compiled.pattern_eq]
    intro stored
    obtain ⟨r, member, same⟩ := stored
    exact fresh r member same
  rw [state]
  refine ⟨rfl, rfl, built.indexed.routes_insert_of_notMem unknown, fun pattern different => ?_⟩
  exact (built.indexed.get?_insert done.route pattern).trans (if_neg different)

namespace Appended

variable {last : Route} {params : ParameterSet} {suffix : Suffix} {g : Generated}

theorem recognize (appended : ns.Appended last ns') (url : String) :
    Recognition.Extended last (ns.recognize url) (ns'.recognize url) := by
  have same : ns'.localPath? url.toList = ns.localPath? url.toList := by
    rw [localPath?, localPath?, appended.mount_eq, appended.script_eq]
  cases here : ns.localPath? url.toList with
  | none =>
    rw [recognize_eq_outside here, recognize_eq_outside (same.trans here)]
    exact .outside
  | some path =>
    rw [recognize_eq_outcome here, recognize_eq_outcome (same.trans here), appended.routes_eq,
      List.filter_append, List.filter_singleton]
    cases last.matchesShape (unescape path) with
    | true => exact extended_outcome path _ last
    | false =>
      rw [cond_false, List.append_nil]
      exact .refl last _

theorem assemble_eq (appended : ns.Appended last ns') : ns'.assemble = ns.assemble := by
  funext r accepted suffix
  rw [assemble, assemble, embed, embed, appended.mount_eq, appended.script_eq]

theorem firstAccepting? (appended : ns.Appended last ns') {aliasName : Option String}
    (found : ns.firstAccepting? aliasName params suffix = some g) :
    ns'.firstAccepting? aliasName params suffix = some g := by
  unfold Namespace.firstAccepting? at found ⊢
  rw [appended.routes_eq, appended.assemble_eq, List.filter_append, List.findSome?_append, found]
  rfl

theorem generate (appended : ns.Appended last ns')
    (rootless : ¬(params.isEmpty = true ∧ last.pattern = "/"))
    (found : ns.generate params suffix = some g) : ns'.generate params suffix = some g := by
  have root : ns'.rootFor? params = ns.rootFor? params := by
    unfold rootFor?
    split
    next empty => exact appended.get?_eq "/" fun same => rootless ⟨empty, same.symm⟩
    next => rfl
  unfold Namespace.generate at found ⊢
  rw [root, appended.assemble_eq]
  split at found
  next => exact found
  next => exact appended.firstAccepting? found

end Appended

/-- A table has the patterns in the order in which they first came since it was cleared, each at one place,
with the route that came last; its index has the places of the patterns and no others. So a route that was
registered is found under its pattern, and stands where an earlier one with the pattern stood. -/
theorem table_lists_latest :
    (∀ steps : List RouteTable.Step,
      let t := RouteTable.run steps
      let history := RouteTable.history steps
      t.patterns.Nodup ∧ t.patterns = (history.map (·.pattern)).eraseDups ∧
      (∀ r ∈ t.routes, history.findRev? (·.pattern == r.pattern) = some r) ∧
      (∀ pattern place, t.places.get? pattern = some place ↔
        ∃ r, t.routes[place]? = some r ∧ r.pattern = pattern) ∧
      (∀ pattern r, t.get? pattern = some r ↔ r ∈ t.routes ∧ r.pattern = pattern) ∧
      ∀ route, (t.put route).replaced = true ↔ ∃ r ∈ t.routes, r.pattern = route.pattern) ∧
    ∀ (ns : Namespace) (d : Declaration) (done : Registration), ns.Built → ns.register d = .ok done →
      (∀ (q : String) (core : List Char) (a b m n : Nat),
        d.pattern.toList = Slash.run a ++ core ++ Slash.run b →
        q.toList = Slash.run m ++ core ++ Slash.run n → done.state.byPattern? q = some done.route) ∧
      ∀ place old, ns.table.routes[place]? = some old → old.pattern = Pattern.normalize d.pattern →
        done.state =
          { ns with table := { ns.table with routes := ns.table.routes.set place done.route } } := by
  refine ⟨fun steps => ?_, fun ns d done built registered => ⟨?_, ?_⟩⟩
  · have lists := RouteTable.lists_run steps
    have indexed := lists.indexed
    refine ⟨indexed.nodup, lists.patterns_eq, lists.latest, fun pattern place => ?_,
      fun pattern r => indexed.get?_eq_some_iff, fun route => ?_⟩
    · rw [indexed pattern place, RouteTable.getElem?_patterns]
    · rw [indexed.replaced_iff, RouteTable.mem_patterns]
  · intro q core a b m n given asked
    apply byPattern?_register built registered
    rw [given, asked, Slash.trim_between_runs, Slash.trim_between_runs]
  · intro place old here known
    exact (register_known built registered here known).2

theorem table_lists_latest_respelled : ∃ (ns : Namespace) (old : Route) (done : Registration), ns.Built ∧
    ns.table.size = 2 ∧ ns.table.routes[0]? = some old ∧ old.pattern = Pattern.normalize "//posts/:id" ∧
    ns.register ⟨"//posts/:id", some "post", .empty, .empty⟩ = .ok done ∧
    done.state.byPattern? "posts/:id/" = some done.route ∧
    done.state =
      { ns with table := { ns.table with routes := ns.table.routes.set 0 done.route } } := by
  obtain ⟨one, first⟩ := (new "").exists_registered
    (d := ⟨"/posts/:id/", none, .empty, .empty⟩) (by decide +kernel)
  obtain ⟨two, second⟩ := one.state.exists_registered
    (d := ⟨"about", none, .empty, .empty⟩) (by decide +kernel)
  obtain ⟨done, registered⟩ := two.state.exists_registered
    (d := ⟨"//posts/:id", some "post", .empty, .empty⟩) (by decide +kernel)
  have built_one : one.state.Built := .register (.new "") first
  have built : two.state.Built := .register built_one second
  obtain ⟨compiled, state, _⟩ := register_eq_ok first
  have routes : one.state.table.routes = [one.route] := by
    rw [state]
    rfl
  have pattern : one.route.pattern = "/posts/:id" := by
    rw [compiled.pattern_eq]
    decide
  have appended := appended_register built_one second (by
    rw [routes, List.forall_mem_singleton, pattern]
    decide)
  have both : two.state.table.routes = [one.route, two.route] := by
    rw [appended.routes_eq, routes]
    rfl
  have here : two.state.table.routes[0]? = some one.route := by
    rw [both]
    rfl
  have known : one.route.pattern = Pattern.normalize "//posts/:id" := by
    rw [pattern]
    decide
  obtain ⟨found, stays⟩ := table_lists_latest.2 two.state _ done built registered
  refine ⟨two.state, one.route, done, built, ?_, here, known, registered, ?_, stays 0 _ here known⟩
  · rw [RouteTable.size, both]
    rfl
  · exact found "posts/:id/" "posts/:id".toList 2 0 0 1 (by decide) (by decide)

/-- A route that is new changes nothing that was decided: what was recognized and what was generated stays,
and the other outcomes stay or are decided by the new route. -/
theorem register_keeps_decisions (built : ns.Built) (registered : ns.register d = .ok done)
    (fresh : ∀ r ∈ ns.table.routes, r.pattern ≠ Pattern.normalize d.pattern) :
    (∀ url, Recognition.Extended done.route (ns.recognize url) (done.state.recognize url)) ∧
    ∀ params suffix g,
      (∀ aliasName, ns.generateByAlias aliasName params suffix = some g →
        done.state.generateByAlias aliasName params suffix = some g) ∧
      (¬(params.isEmpty = true ∧ done.route.pattern = "/") → ns.generate params suffix = some g →
        done.state.generate params suffix = some g) := by
  have appended := appended_register built registered fresh
  exact ⟨appended.recognize, fun params suffix g =>
    ⟨fun aliasName found => appended.firstAccepting? found, appended.generate⟩⟩

/-- A text that the one route refuses is captured by the new one. -/
theorem register_keeps_decisions_overlap : ∃ (ns : Namespace) (r : Route) (path : String) (count : Nat)
    (done : Registration), ns.Built ∧ ns.register ⟨":kind/:id", none, .empty, .empty⟩ = .ok done ∧
    (∀ r ∈ ns.table.routes, r.pattern ≠ Pattern.normalize ":kind/:id") ∧
    ns.recognize "/posts/x" = .invalid r path count ∧
    (∀ url, Recognition.Extended done.route (ns.recognize url) (done.state.recognize url)) ∧
    ∀ params suffix g,
      (∀ aliasName, ns.generateByAlias aliasName params suffix = some g →
        done.state.generateByAlias aliasName params suffix = some g) ∧
      (¬(params.isEmpty = true ∧ done.route.pattern = "/") → ns.generate params suffix = some g →
        done.state.generate params suffix = some g) := by
  have run : refuses ⟨"posts/:id", none, .empty, .ofList [("id", "[0-9]+")]⟩ "/posts/x" = true := by
    decide +kernel
  obtain ⟨one, r, path, count, first, refused⟩ := exists_of_refuses run
  obtain ⟨done, registered⟩ := one.state.exists_registered
    (d := ⟨":kind/:id", none, .empty, .empty⟩) (by decide +kernel)
  have built : one.state.Built := .register (.new "") first
  have fresh : ∀ r ∈ one.state.table.routes, r.pattern ≠ Pattern.normalize ":kind/:id" := by
    obtain ⟨compiled, state, _⟩ := register_eq_ok first
    intro r member
    rw [state] at member
    obtain rfl : r = one.route := List.mem_singleton.1 member
    rw [compiled.pattern_eq]
    decide
  exact ⟨one.state, r, path, count, done, built, registered, fresh, refused,
    register_keeps_decisions built registered fresh⟩

end Namespace

end UrlRouting
