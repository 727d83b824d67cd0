import UrlRouting.Proofs.Namespace.Built
import UrlRouting.Registry
import UrlRouting.RouteFile.Basic

/-! Registries in use. A step changes the namespace that it is addressed to and no other, so each
namespace ends up as if the steps addressed to it had been all. -/

namespace UrlRouting

namespace Namespace

/-- What may be done to a namespace. -/
inductive Change where
  | register (d : Declaration)
  | connect (pattern : String)
  | setMount (text : String)
  | setScriptName (text : String)
  | reset
  | load (file : RouteFile)

/-- The namespace with a route, or as it was if the route does not compile. -/
def attempt (ns : Namespace) (d : Declaration) : Namespace :=
  match ns.register d with
  | .ok done => done.state
  | .error _ => ns

def Change.apply (ns : Namespace) : Change → Namespace
  | register d => ns.attempt d
  | connect pattern => ns.attempt ⟨pattern, none, .empty, .empty⟩
  | setMount text => ns.setMount text
  | setScriptName text => ns.setScriptName text
  | reset => ns.reset
  | load file => (file.apply ns).state

def changed (ns : Namespace) (changes : List Change) : Namespace := changes.foldl Change.apply ns

theorem id_of_register {ns : Namespace} {d : Declaration} {done : Registration}
    (registered : ns.register d = .ok done) : done.state.id = ns.id := by
  obtain ⟨_, state, _⟩ := register_eq_ok registered
  rw [state]

theorem id_attempt (ns : Namespace) (d : Declaration) : (ns.attempt d).id = ns.id := by
  unfold attempt
  split
  next registered => exact id_of_register registered
  next => rfl

theorem id_registerFrom (index : Nat) (ns : Namespace) (routes : List Declaration) :
    (RouteFile.registerFrom index ns routes).state.id = ns.id := by
  induction routes generalizing index ns with
  | nil => rfl
  | cons d routes ih =>
    unfold RouteFile.registerFrom
    split
    next => rfl
    next done registered => exact (ih _ _).trans (id_of_register registered)

theorem id_configure (f : RouteFile) (ns : Namespace) : (f.configure ns).id = ns.id := by
  unfold RouteFile.configure
  cases f.mount <;> cases f.scriptName <;> rfl

theorem Change.id_apply (ns : Namespace) (c : Change) : (c.apply ns).id = ns.id := by
  cases c with
  | register d => exact id_attempt ns d
  | connect pattern => exact id_attempt ns _
  | setMount text => rfl
  | setScriptName text => rfl
  | reset => rfl
  | load file => exact (id_registerFrom _ _ _).trans (id_configure file ns)

theorem id_changed (ns : Namespace) (changes : List Change) : (ns.changed changes).id = ns.id := by
  induction changes generalizing ns with
  | nil => rfl
  | cons c changes ih => exact (ih _).trans (c.id_apply ns)

end Namespace

namespace Registry

variable {α : Type} {r s : Registry} {n : String}

theorem mem_ids : n ∈ r.ids ↔ (r.lookup? n).isSome = true := NameMap.contains_iff.symm

theorem lookup?_update (r : Registry) (id : String) (change : Namespace → Namespace) (n : String) :
    (r.update id change).lookup? n = if n = id then some (change (r.get id)) else r.lookup? n :=
  NameMap.get?_insert _ _ _ _

theorem lookup?_insert (r : Registry) (ns : Namespace) (n : String) :
    (r.insert ns).lookup? n = if n = ns.id then some ns else r.lookup? n :=
  NameMap.get?_insert _ _ _ _

theorem lookup?_reset (r : Registry) (id n : String) :
    (r.reset id).lookup? n = if n = id then (r.lookup? id).map Namespace.reset else r.lookup? n := by
  unfold reset
  split
  next ns found =>
    rw [found]
    exact NameMap.get?_insert _ _ _ _
  next missing =>
    split
    next same => rw [same, missing, Option.map_none]
    next => rfl

/-- What may be done with a registry. A namespace got is changed in place; one looked up is asked. -/
inductive Step (α : Type) where
  | get (id : String) (changes : List Namespace.Change)
  | getDefault (changes : List Namespace.Change)
  | lookup (id : String) (query : Namespace → α)
  | reset (id : String)
  | insert (ns : Namespace)

namespace Step

/-- The identifier that a step is addressed to. -/
def target : Step α → String
  | get id _ => id
  | getDefault _ => Namespace.defaultId
  | lookup id _ => id
  | reset id => id
  | insert ns => ns.id

/-- Whether a step makes a namespace where there is none. -/
def creates : Step α → Bool
  | get _ _ => true
  | getDefault _ => true
  | lookup _ _ => false
  | reset _ => false
  | insert _ => true

def apply (r : Registry) : Step α → Registry
  | get id changes => r.update id (·.changed changes)
  | getDefault changes => r.update Namespace.defaultId (·.changed changes)
  | lookup _ _ => r
  | reset id => r.reset id
  | insert ns => r.insert ns

/-- What a query is answered, with the identifier that was looked up. -/
def answer? (r : Registry) : Step α → Option (String × Option α)
  | lookup id query => some (id, (r.lookup? id).map query)
  | _ => none

/-- What a step makes of the namespace that it is addressed to. -/
def effect : Step α → Option Namespace → Option Namespace
  | get id changes, ns => some ((ns.getD (.new id)).changed changes)
  | getDefault changes, ns => some ((ns.getD (.new Namespace.defaultId)).changed changes)
  | lookup _ _, ns => ns
  | reset _, ns => ns.map Namespace.reset
  | insert ns, _ => some ns

theorem lookup?_apply_of_ne {step : Step α} (elsewhere : n ≠ step.target) :
    (step.apply r).lookup? n = r.lookup? n := by
  cases step with
  | get id changes => exact (lookup?_update _ _ _ _).trans (if_neg elsewhere)
  | getDefault changes => exact (lookup?_update _ _ _ _).trans (if_neg elsewhere)
  | lookup id query => rfl
  | reset id => exact (lookup?_reset _ _ _).trans (if_neg elsewhere)
  | insert ns => exact (lookup?_insert _ _ _).trans (if_neg elsewhere)

theorem lookup?_apply_target (step : Step α) (r : Registry) :
    (step.apply r).lookup? step.target = step.effect (r.lookup? step.target) := by
  cases step with
  | get id changes => exact (lookup?_update _ _ _ _).trans (if_pos rfl)
  | getDefault changes => exact (lookup?_update _ _ _ _).trans (if_pos rfl)
  | lookup id query => rfl
  | reset id => exact (lookup?_reset _ _ _).trans (if_pos rfl)
  | insert ns => exact (lookup?_insert _ _ _).trans (if_pos rfl)

/-- What a step makes of a namespace depends on this namespace alone. -/
theorem lookup?_apply_congr (step : Step α) (same : r.lookup? n = s.lookup? n) :
    (step.apply r).lookup? n = (step.apply s).lookup? n := by
  by_cases here : n = step.target
  · subst here
    rw [lookup?_apply_target, lookup?_apply_target, same]
  · rw [lookup?_apply_of_ne here, lookup?_apply_of_ne here, same]

theorem isSome_lookup?_apply (step : Step α) (r : Registry) (n : String) :
    ((step.apply r).lookup? n).isSome = true ↔
      (r.lookup? n).isSome = true ∨ step.creates = true ∧ step.target = n := by
  by_cases here : n = step.target
  · rw [here, lookup?_apply_target]
    cases step <;> simp [effect, creates]
  · rw [lookup?_apply_of_ne here, or_iff_left fun created => here created.2.symm]

theorem ids_apply {step : Step α} (idle : step.creates = false) : (step.apply r).ids = r.ids := by
  refine NameMap.names_eq_of_mem_iff fun n => ?_
  have kept := isSome_lookup?_apply step r n
  rw [or_iff_left fun created => Bool.noConfusion (idle.symm.trans created.1)] at kept
  exact mem_ids.trans (kept.trans mem_ids.symm)

end Step

/-- Each namespace stands under its own identifier. -/
def Keyed (r : Registry) : Prop := ∀ id ns, r.lookup? id = some ns → ns.id = id

theorem keyed_empty : empty.Keyed := fun _ _ found => nomatch found

theorem Keyed.apply (keyed : r.Keyed) (step : Step α) : (step.apply r).Keyed := by
  intro n ns found
  by_cases here : n = step.target
  · subst here
    rw [Step.lookup?_apply_target] at found
    have got (id : String) (changes : List Namespace.Change) :
        (((r.lookup? id).getD (.new id)).changed changes).id = id := by
      rw [Namespace.id_changed]
      cases stored : r.lookup? id with
      | none => rfl
      | some old => exact keyed id old stored
    cases step with
    | get id changes =>
      cases found
      exact got id changes
    | getDefault changes =>
      cases found
      exact got Namespace.defaultId changes
    | lookup id query => exact keyed id ns found
    | reset id =>
      obtain ⟨old, stored, rfl⟩ := Option.map_eq_some_iff.1 found
      exact keyed id old stored
    | insert other =>
      cases found
      rfl
  · rw [Step.lookup?_apply_of_ne here] at found
    exact keyed n ns found

def after (r : Registry) (steps : List (Step α)) : Registry := steps.foldl Step.apply r

/-- What the queries among steps are answered, in order, with the identifiers that were looked up. -/
def answers (r : Registry) : List (Step α) → List (String × Option α)
  | [] => []
  | step :: steps => (step.answer? r).toList ++ answers (step.apply r) steps

/-- The steps that are addressed to a namespace. -/
def addressed (n : String) (steps : List (Step α)) : List (Step α) := steps.filter (·.target = n)

theorem addressed_cons (n : String) (step : Step α) (steps : List (Step α)) :
    addressed n (step :: steps) = if step.target = n then step :: addressed n steps else addressed n steps := by
  simp only [addressed, List.filter_cons, decide_eq_true_eq]

theorem Keyed.after (keyed : r.Keyed) (steps : List (Step α)) : (r.after steps).Keyed := by
  induction steps generalizing r with
  | nil => exact keyed
  | cons step steps ih => exact ih (keyed.apply step)

theorem mem_ids_after (r : Registry) (steps : List (Step α)) (n : String) :
    n ∈ (r.after steps).ids ↔ n ∈ r.ids ∨ ∃ step ∈ steps, step.creates = true ∧ step.target = n := by
  induction steps generalizing r with
  | nil => simp [after]
  | cons step steps ih =>
    rw [after, List.foldl_cons, ← after, ih, mem_ids, Step.isSome_lookup?_apply, ← mem_ids, or_assoc,
      List.exists_mem_cons_iff]

/-- Steps addressed elsewhere may be left out. -/
theorem lookup?_after_addressed (same : r.lookup? n = s.lookup? n) (steps : List (Step α)) :
    (r.after steps).lookup? n = (s.after (addressed n steps)).lookup? n := by
  induction steps generalizing r s with
  | nil => exact same
  | cons step steps ih =>
    rw [addressed_cons]
    split
    next => exact ih (step.lookup?_apply_congr same)
    next elsewhere => exact ih ((Step.lookup?_apply_of_ne (Ne.symm elsewhere)).trans same)

theorem Step.answer?_congr {step : Step α} (here : step.target = n) (same : r.lookup? n = s.lookup? n) :
    step.answer? r = step.answer? s := by
  subst here
  cases step with
  | lookup id query => exact congrArg (fun ns => some (id, Option.map query ns)) same
  | _ => rfl

theorem Step.filter_answer? (step : Step α) (r : Registry) (n : String) :
    (step.answer? r).toList.filter (·.1 = n) = if step.target = n then (step.answer? r).toList else [] := by
  cases step with
  | lookup id query =>
    simp only [answer?, target, Option.toList_some, List.filter_cons, List.filter_nil, decide_eq_true_eq]
    rfl
  | _ => exact (ite_self _).symm

theorem answers_addressed (same : r.lookup? n = s.lookup? n) (steps : List (Step α)) :
    (r.answers steps).filter (·.1 = n) = s.answers (addressed n steps) := by
  induction steps generalizing r s with
  | nil => rfl
  | cons step steps ih =>
    rw [answers, List.filter_append, step.filter_answer?, addressed_cons]
    split
    next here =>
      rw [answers, step.answer?_congr here same, ih (step.lookup?_apply_congr same)]
    next elsewhere => exact ih ((Step.lookup?_apply_of_ne (Ne.symm elsewhere)).trans same)

/-- Of all steps only those addressed to a namespace bear on it: without the others it is the same in the
end, or still missing, and queries of it are answered the same. Identifiers are listed in order, each of a
namespace that has it, and for no other reason than that a namespace was got or put in. -/
theorem namespaces_apart (steps : List (Step α)) :
    (∀ n, (empty.after steps).lookup? n = (empty.after (addressed n steps)).lookup? n ∧
      (empty.answers steps).filter (·.1 = n) = empty.answers (addressed n steps)) ∧
    (empty.after steps).ids.Pairwise (· < ·) ∧
    (∀ id ns, (empty.after steps).lookup? id = some ns → ns.id = id) ∧
    (∀ n, n ∈ (empty.after steps).ids ↔ ∃ step ∈ steps, step.creates = true ∧ step.target = n) ∧
    ∀ id query, ((Step.lookup id query : Step α).apply (empty.after steps)).ids = (empty.after steps).ids ∧
      ((Step.reset id : Step α).apply (empty.after steps)).ids = (empty.after steps).ids := by
  refine ⟨fun n => ⟨lookup?_after_addressed rfl steps, answers_addressed rfl steps⟩,
    NameMap.pairwise_names _, keyed_empty.after steps, fun n => ?_, fun id query =>
      ⟨Step.ids_apply rfl, Step.ids_apply rfl⟩⟩
  rw [mem_ids_after]
  exact or_iff_right List.not_mem_nil

end Registry

end UrlRouting
