import UrlRouting.Proofs.Namespace.Registration
import UrlRouting.Proofs.Registry
import UrlRouting.RouteFile.Load

/-! What applying a route file does. Entries are registered up to the first that does not compile. Which one
this is depends on the file alone, and the namespace is left as the entries before it make it. When the file
is applied again every pattern has its place, and the route that was put there last is put there last again. -/

namespace UrlRouting

theorem Namespace.register_eq_error_iff {ns : Namespace} {d : Declaration} {cause : PatternError} :
    ns.register d = .error cause ↔ Route.compile d = .error cause := by
  unfold Namespace.register
  cases Route.compile d <;> simp [Except.map]

namespace Application

variable {a : Application}

theorem result_eq_ok_iff {ns : Namespace} : a.result = .ok ns ↔ a.failure = none ∧ a.state = ns := by
  unfold result
  cases a.failure <;> simp

theorem result_eq_error_iff {l : LoadError} : a.result = .error l ↔ ∃ e, a.failure = some e ∧ l = .entry e := by
  unfold result
  cases a.failure with
  | none => simp
  | some e => simp [eq_comm]

end Application

namespace RouteFile

variable {f : RouteFile} {ns : Namespace} {d : Declaration} {routes before : List Declaration} {e : EntryError}

/-- The file without the entry at an index and those behind it. -/
def upTo (f : RouteFile) (index : Nat) : RouteFile := { f with routes := f.routes.take index }

/-- The first entry that does not compile, told by its index and its pattern, and what is wrong with it. -/
structure Fault (routes : List Declaration) (e : EntryError) : Prop where
  entry : ∃ d, routes[e.index]? = some d ∧ d.pattern = e.pattern ∧ Route.compile d = .error e.cause
  first : ∀ d ∈ routes.take e.index, (Route.compile d).isOk = true

theorem compiles_or_fault (routes : List Declaration) :
    (∀ d ∈ routes, (Route.compile d).isOk = true) ∨ ∃ e, Fault routes e := by
  induction routes with
  | nil => exact .inl (List.forall_mem_nil _)
  | cons d routes ih =>
    cases compiled : Route.compile d with
    | error cause => exact .inr ⟨⟨0, d.pattern, cause⟩, ⟨d, rfl, rfl, compiled⟩, List.forall_mem_nil _⟩
    | ok r =>
      have here : (Route.compile d).isOk = true := by rw [compiled]; rfl
      rcases ih with compiles | ⟨e, fault⟩
      · exact .inl (List.forall_mem_cons.2 ⟨here, compiles⟩)
      · refine .inr ⟨{ e with index := e.index + 1 }, fault.entry, ?_⟩
        rw [List.take_succ_cons]
        exact List.forall_mem_cons.2 ⟨here, fault.first⟩

theorem registerFrom_cons_of_error {cause : PatternError} (fails : Route.compile d = .error cause) (index : Nat)
    (ns : Namespace) (rest : List Declaration) :
    registerFrom index ns (d :: rest) = ⟨ns, [], some ⟨index, d.pattern, cause⟩⟩ := by
  rw [registerFrom, Namespace.register_eq_error_iff.2 fails]

/-- Entries that compile are registered one after the other, and the others from there on. -/
theorem registerFrom_append (compiles : ∀ d ∈ before, (Route.compile d).isOk = true) (index : Nat)
    (ns : Namespace) (rest : List Declaration) : registerFrom index ns (before ++ rest) =
      let done := registerFrom index ns before
      let later := registerFrom (index + before.length) done.state rest
      { later with registered := done.registered ++ later.registered } := by
  induction before generalizing index ns with
  | nil => rfl
  | cons d before ih =>
    obtain ⟨here, compiles⟩ := List.forall_mem_cons.1 compiles
    obtain ⟨done, registered⟩ := ns.exists_registered here
    have next : index + (d :: before).length = index + 1 + before.length := by
      rw [List.length_cons]
      omega
    rw [List.cons_append, registerFrom, registerFrom, registered]
    dsimp only
    rw [ih compiles, next]
    rfl

theorem failure_of_compiles (compiles : ∀ d ∈ routes, (Route.compile d).isOk = true) (index : Nat)
    (ns : Namespace) : (registerFrom index ns routes).failure = none := by
  induction routes generalizing index ns with
  | nil => rfl
  | cons d routes ih =>
    obtain ⟨here, compiles⟩ := List.forall_mem_cons.1 compiles
    obtain ⟨done, registered⟩ := ns.exists_registered here
    rw [registerFrom, registered]
    exact ih compiles (index + 1) done.state

/-- What is behind the first entry that does not compile does not matter. -/
theorem Fault.registerFrom_eq (fault : Fault routes e) (index : Nat) (ns : Namespace) :
    registerFrom index ns routes =
      { registerFrom index ns (routes.take e.index) with failure := some { e with index := index + e.index } } := by
  obtain ⟨d, here, named, fails⟩ := fault.entry
  -- the list is divided at the entry, which leaves nothing to register
  obtain ⟨bound, same⟩ := List.getElem?_eq_some_iff.1 here
  have split : routes = routes.take e.index ++ d :: routes.drop (e.index + 1) := by
    rw [← same, ← List.drop_eq_getElem_cons bound, List.take_append_drop]
  have length : (routes.take e.index).length = e.index := List.length_take_of_le (Nat.le_of_lt bound)
  conv_lhs => rw [split]
  rw [registerFrom_append fault.first]
  dsimp only
  rw [registerFrom_cons_of_error fails, List.append_nil, length, named]

theorem Fault.apply_eq (fault : Fault f.routes e) (ns : Namespace) :
    f.apply ns = { (f.upTo e.index).apply ns with failure := some e } := by
  have applied := fault.registerFrom_eq 0 (f.configure ns)
  rw [Nat.zero_add] at applied
  exact applied

theorem failure_eq_none_iff :
    (f.apply ns).failure = none ↔ ∀ d ∈ f.routes, (Route.compile d).isOk = true := by
  refine ⟨fun whole => ?_, fun compiles => failure_of_compiles compiles 0 _⟩
  rcases compiles_or_fault f.routes with compiles | ⟨e, fault⟩
  · exact compiles
  · rw [fault.apply_eq ns] at whole
    cases whole

theorem failure_eq_some_iff : (f.apply ns).failure = some e ↔ Fault f.routes e := by
  refine ⟨fun failed => ?_, fun fault => by rw [fault.apply_eq ns]⟩
  rcases compiles_or_fault f.routes with compiles | ⟨e', fault⟩
  · rw [failure_eq_none_iff.2 compiles] at failed
    cases failed
  · rw [fault.apply_eq ns] at failed
    cases failed
    exact fault

theorem failure_apply_congr (f : RouteFile) (ns ns' : Namespace) :
    (f.apply ns').failure = (f.apply ns).failure := by
  refine Option.ext fun e => ?_
  rw [failure_eq_some_iff, failure_eq_some_iff]

/-- A route that does not compile changes nothing. A file is applied whole just if all its entries compile.
Otherwise the error is that of the first entry that does not, whatever the namespace, and the namespace is
left as the file without this entry and those behind it leaves it. -/
theorem apply_stops_at_fault (f : RouteFile) (ns : Namespace) :
    (∀ d cause, ns.register d = .error cause → ns.attempt d = ns ∧
      (RouteFile.mk none none [d]).apply ns = ⟨ns, [], some ⟨0, d.pattern, cause⟩⟩) ∧
    ((f.apply ns).result = .ok (f.apply ns).state ↔ ∀ d ∈ f.routes, (Route.compile d).isOk = true) ∧
    (∀ l, (f.apply ns).result = .error l ↔ ∃ e, Fault f.routes e ∧ l = .entry e) ∧
    (∀ e, Fault f.routes e → ((f.upTo e.index).apply ns).result = .ok (f.apply ns).state) ∧
    ∀ ns', (f.apply ns').failure = (f.apply ns).failure := by
  refine ⟨fun d cause refused => ⟨?_, ?_⟩, ?_, fun l => ?_, fun e fault => ?_, f.failure_apply_congr ns⟩
  · rw [Namespace.attempt, refused]
  · exact registerFrom_cons_of_error (Namespace.register_eq_error_iff.1 refused) 0 ns []
  · rw [Application.result_eq_ok_iff, failure_eq_none_iff, and_iff_left rfl]
  · simp only [Application.result_eq_error_iff, failure_eq_some_iff]
  · rw [Application.result_eq_ok_iff, fault.apply_eq ns]
    exact ⟨failure_of_compiles fault.first 0 _, rfl⟩

/-- An entry whose group is not closed, between two that compile. -/
theorem apply_stops_at_fault_between : ∃ (f : RouteFile) (ns : Namespace) (e : EntryError),
    f.routes.map (·.pattern) = ["a/:x", "b/:(x", "c"] ∧ ns.mount = "/de" ∧
    e = ⟨1, "b/:(x", ⟨.unbalancedGroup, "b/:(x"⟩⟩ ∧ Fault f.routes e ∧
    (f.apply ns).result = .error (.entry e) ∧ ((f.upTo e.index).apply ns).result = .ok (f.apply ns).state ∧
    (f.apply ns).state.mount = "/en" ∧ (f.apply ns).state.table.routes.map (·.pattern) = ["/a/:x"] := by
  have read : Pattern.read "b/:(x" = .error ⟨.unbalancedGroup, "b/:(x"⟩ := by decide +kernel
  have fault : Fault
      [⟨"a/:x", none, .empty, .empty⟩, ⟨"b/:(x", none, .empty, .empty⟩, ⟨"c", none, .empty, .empty⟩]
      ⟨1, "b/:(x", ⟨.unbalancedGroup, "b/:(x"⟩⟩ := by
    refine ⟨⟨_, rfl, rfl, by rw [Route.compile, read]⟩, ?_⟩
    rw [List.take_succ_cons, List.take_zero, List.forall_mem_singleton]
    decide +kernel
  obtain ⟨_, _, stops, leaves, _⟩ := apply_stops_at_fault ⟨some "en/", none,
    [⟨"a/:x", none, .empty, .empty⟩, ⟨"b/:(x", none, .empty, .empty⟩, ⟨"c", none, .empty, .empty⟩]⟩
    ((Namespace.new "").setMount "de")
  exact ⟨_, _, _, rfl, by decide, rfl, fault, (stops _).2 ⟨_, fault, rfl⟩, leaves _ fault,
    by decide +kernel, by decide +kernel⟩

theorem routes_registerFrom (routes : List Declaration) (index index' : Nat) (ns ns' : Namespace) :
    (registerFrom index ns routes).registered.map (·.route) =
      (registerFrom index' ns' routes).registered.map (·.route) := by
  induction routes generalizing index index' ns ns' with
  | nil => rfl
  | cons d routes ih =>
    rw [registerFrom, registerFrom, Namespace.register, Namespace.register]
    cases Route.compile d with
    | error cause => rfl
    | ok r => exact congrArg (r :: ·) (ih _ _ _ _)

theorem state_registerFrom (routes : List Declaration) (index : Nat) (ns : Namespace) :
    (registerFrom index ns routes).state =
      { ns with table := ns.table.insertAll ((registerFrom index ns routes).registered.map (·.route)) } := by
  induction routes generalizing index ns with
  | nil => rfl
  | cons d routes ih =>
    rw [registerFrom, Namespace.register]
    cases Route.compile d with
    | error cause => rfl
    | ok r => exact ih (index + 1) _

theorem configure_again (f : RouteFile) (ns : Namespace) (table : RouteTable) :
    f.configure { f.configure ns with table := table } = { f.configure ns with table := table } := by
  unfold configure
  cases f.mount <;> cases f.scriptName <;> rfl

theorem table_configure (f : RouteFile) (ns : Namespace) : (f.configure ns).table = ns.table := by
  unfold configure
  cases f.mount <;> cases f.scriptName <;> rfl

theorem built_registerFrom (built : ns.Built) (routes : List Declaration) (index : Nat) :
    (registerFrom index ns routes).state.Built := by
  induction routes generalizing index ns with
  | nil => exact built
  | cons d routes ih =>
    unfold registerFrom
    split
    next => exact built
    next done registered => exact ih (.register built registered) (index + 1)

/-- What is known of the namespaces that come about through single calls is known of those that are loaded. -/
theorem built_apply (built : ns.Built) (f : RouteFile) : (f.apply ns).state.Built := by
  refine built_registerFrom ?_ f.routes 0
  unfold configure
  cases f.mount with
  | none =>
    cases f.scriptName with
    | none => exact built
    | some script => exact built.setScriptName script
  | some mount =>
    cases f.scriptName with
    | none => exact built.setMount mount
    | some script => exact (built.setMount mount).setScriptName script

/-- To apply a file again changes nothing, also where the file has one pattern in several entries and where
it is only applied in part. -/
theorem apply_again (built : ns.Built) (f : RouteFile) :
    (f.apply (f.apply ns).state).state = (f.apply ns).state ∧
      (f.apply (f.apply ns).state).result = (f.apply ns).result := by
  have state : (f.apply (f.apply ns).state).state = (f.apply ns).state := by
    -- the second time the same routes are put, into a table that ends with them
    obtain ⟨history, lists⟩ := built.exists_history
    rw [apply, apply, state_registerFrom, routes_registerFrom f.routes 0 0 _ (f.configure ns),
      state_registerFrom f.routes 0 (f.configure ns), configure_again, table_configure]
    dsimp only
    rw [lists.insertAll_insertAll]
  refine ⟨state, ?_⟩
  rw [Application.result, Application.result, failure_apply_congr, state]

/-- A pattern given twice, on a table that has another pattern of the file, and an entry that does not
compile. -/
theorem apply_again_overwritten : ∃ (ns : Namespace) (f : RouteFile), ns.Built ∧
    ns.table.routes.map (·.pattern) = ["/b"] ∧
    f.routes.map (·.pattern) = ["a/:x", "b/", "/a/:x", "c/:(x"] ∧
    ((f.apply ns).state.table.routes.map fun r => (r.pattern, r.aliasName)) =
      [("/b", some "b"), ("/a/:x", some "last")] ∧
    (f.apply ns).failure = some ⟨3, "c/:(x", ⟨.unbalancedGroup, "c/:(x"⟩⟩ ∧
    (f.apply (f.apply ns).state).state = (f.apply ns).state ∧
    (f.apply (f.apply ns).state).result = (f.apply ns).result := by
  have run : ((Namespace.new "").register ⟨"b", none, .empty, .empty⟩).toOption.any (fun one =>
      decide (one.state.table.routes.map (·.pattern) = ["/b"]) &&
      let a := RouteFile.apply ⟨some "en", none, [⟨"a/:x", some "first", .empty, .empty⟩,
        ⟨"b/", some "b", .empty, .empty⟩, ⟨"/a/:x", some "last", .ofList [("x", .absent)], .empty⟩,
        ⟨"c/:(x", none, .empty, .empty⟩]⟩ one.state
      decide ((a.state.table.routes.map fun r => (r.pattern, r.aliasName)) =
        [("/b", some "b"), ("/a/:x", some "last")] ∧
        a.failure = some ⟨3, "c/:(x", ⟨.unbalancedGroup, "c/:(x"⟩⟩)) = true := by
    decide +kernel
  obtain ⟨one, registered⟩ := (Namespace.new "").exists_registered
    (d := ⟨"b", none, .empty, .empty⟩) (by decide +kernel)
  rw [registered, Except.toOption, Option.any_some, Bool.and_eq_true, decide_eq_true_eq] at run
  obtain ⟨patterns, outcome⟩ := run
  have built : one.state.Built := .register (.new "") registered
  obtain ⟨routes, failure⟩ := of_decide_eq_true outcome
  exact ⟨one.state, _, built, patterns, rfl, routes, failure, apply_again built _⟩

end RouteFile

end UrlRouting
