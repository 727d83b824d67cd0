import UrlRouting.Proofs.Namespace.Mount
import UrlRouting.Proofs.Namespace.Recognition
import UrlRouting.Proofs.Route.Compile
import UrlRouting.Proofs.Route.Table

/-! Namespaces as they come about: new ones, in which routes are registered, and which are mounted, given
a script name and reset. All their routes are compiled, and their mount points are as they are kept. -/

namespace UrlRouting

namespace Namespace

inductive Built : Namespace → Prop
  | new (id : String) : Built (new id)
  | register {ns : Namespace} {d : Declaration} {registration : Registration} (built : Built ns)
      (registered : ns.register d = .ok registration) : Built registration.state
  | setMount {ns : Namespace} (built : Built ns) (text : String) : Built (ns.setMount text)
  | setScriptName {ns : Namespace} (built : Built ns) (text : String) : Built (ns.setScriptName text)
  | reset {ns : Namespace} (built : Built ns) : Built ns.reset

theorem register_eq_ok {ns : Namespace} {d : Declaration} {registration : Registration}
    (registered : ns.register d = .ok registration) :
    Route.Compiled d registration.route ∧
      registration.state = { ns with table := ns.table.insert registration.route } ∧
      registration.replaced = (ns.table.put registration.route).replaced := by
  unfold register at registered
  cases compiled : Route.compile d with
  | error e =>
    rw [compiled] at registered
    cases registered
  | ok r =>
    rw [compiled] at registered
    cases registered
    exact ⟨Route.compile_eq_ok_iff.1 compiled, rfl, rfl⟩

namespace Built

variable {ns : Namespace}

theorem compiled (built : ns.Built) : ∀ r ∈ ns.table.routes, ∃ d, Route.Compiled d r := by
  induction built with
  | new id => exact List.forall_mem_nil _
  | @register ns d _ _ registered ih =>
    obtain ⟨compiled, state, _⟩ := register_eq_ok registered
    rw [state]
    intro r member
    rcases RouteTable.mem_insert member with rfl | before
    · exact ⟨d, compiled⟩
    · exact ih r before
  | setMount _ text ih => exact ih
  | setScriptName _ text ih => exact ih
  | reset _ _ => exact List.forall_mem_nil _

theorem indexed (built : ns.Built) : ns.table.Indexed := by
  induction built with
  | new id => exact RouteTable.indexed_empty
  | register _ registered ih =>
    obtain ⟨_, state, _⟩ := register_eq_ok registered
    rw [state]
    exact ih.insert _
  | setMount _ text ih => exact ih
  | setScriptName _ text ih => exact ih
  | reset _ _ => exact RouteTable.indexed_empty

theorem exists_history (built : ns.Built) : ∃ history, ns.table.Lists history := by
  induction built with
  | new id => exact ⟨[], RouteTable.lists_empty⟩
  | register _ registered ih =>
    obtain ⟨history, lists⟩ := ih
    obtain ⟨_, state, _⟩ := register_eq_ok registered
    rw [state]
    exact ⟨_, lists.insert _⟩
  | setMount _ text ih => exact ih
  | setScriptName _ text ih => exact ih
  | reset _ _ => exact ⟨[], RouteTable.lists_empty⟩

theorem mounted (built : ns.Built) : Mounted ns.mount.toList := by
  induction built with
  | new id => exact .inl rfl
  | register _ registered ih =>
    obtain ⟨_, state, _⟩ := register_eq_ok registered
    rw [state]
    exact ih
  | @setMount ns _ text _ => exact mounted_setMount ns text
  | setScriptName _ text ih => exact ih
  | reset _ _ => exact .inl rfl

end Built

/-- Whether a URL is recognized by the one route of a declaration, with values that pass a test. -/
def recognizes (d : Declaration) (url : String) (test : Route → ParameterSet → Bool) : Bool :=
  match (new "").register d with
  | .ok registration =>
    match registration.state.recognize url with
    | .matched r _ found => test r found
    | _ => false
  | .error _ => false

theorem exists_of_recognizes {d : Declaration} {url : String} {test : Route → ParameterSet → Bool}
    (run : recognizes d url test = true) : ∃ (r : Route) (path : String) (found : ParameterSet),
      Route.Compiled d r ∧ Built { new "" with table := .insert .empty r } ∧
      recognize { new "" with table := .insert .empty r } url = .matched r path found ∧ test r found = true := by
  unfold recognizes at run
  split at run
  next registration registered =>
    obtain ⟨compiled, state, _⟩ := register_eq_ok registered
    generalize registration.route = r at compiled state
    have built : Built registration.state := .register (.new "") registered
    have one : registration.state = { new "" with table := .insert .empty r } := state
    rw [one] at run built
    split at run
    next s path found recognized =>
      obtain ⟨member, _⟩ := recognize_eq_matched recognized
      obtain rfl : s = r := List.mem_singleton.1 member
      exact ⟨s, path, found, compiled, built, recognized, run⟩
    next => cases run
  next => cases run

/-- Whether the one route of a declaration has the shape of a URL, but refuses its values. -/
def refuses (d : Declaration) (url : String) : Bool :=
  match (new "").register d with
  | .ok registration =>
    match registration.state.recognize url with
    | .invalid _ _ _ => true
    | _ => false
  | .error _ => false

theorem exists_of_refuses {d : Declaration} {url : String} (run : refuses d url = true) :
    ∃ (registration : Registration) (r : Route) (path : String) (count : Nat),
      (new "").register d = .ok registration ∧ registration.state.recognize url = .invalid r path count := by
  unfold refuses at run
  split at run
  next registration registered =>
    split at run
    next r path count refused => exact ⟨registration, r, path, count, registered, refused⟩
    next => cases run
  next => cases run

end Namespace

end UrlRouting
