import UrlRouting.Proofs.NameMap
import UrlRouting.Route.Basic

/-! What a route accepts. The values supplied are taken over one by one, and the set that comes of it is the
set that was supplied. -/

namespace UrlRouting.Route

variable {r : Route} {supplied accepted : ParameterSet} {name : String}

/-- What is gathered is all of it or nothing. -/
theorem foldlM_addSupplied? (r : Route) (entries : List (String × ParamValue)) (m : ParameterSet) :
    entries.foldlM r.addSupplied? m =
      if entries.all (fun e => r.admits e.1 e.2) then some (entries.foldl (fun m e => m.insert e.1 e.2) m)
      else none := by
  induction entries generalizing m with
  | nil => rfl
  | cons e rest ih =>
    rw [List.foldlM_cons, addSupplied?, List.all_cons, List.foldl_cons]
    cases r.admits e.1 e.2 with
    | true => exact ih _
    | false => rfl

theorem gather?_eq (r : Route) (supplied : ParameterSet) :
    r.gather? supplied = if supplied.entries.all (fun e => r.admits e.1 e.2) then some supplied else none := by
  have whole := supplied.ofList_entries
  rw [NameMap.ofList] at whole
  rw [gather?, foldlM_addSupplied?, whole]

theorem accept_eq (r : Route) (supplied : ParameterSet) :
    r.accept supplied =
      if supplied.entries.all (fun e => r.admits e.1 e.2) ∧ supplied.size ≤ r.maxKeys ∧
        r.required.all supplied.contains then some supplied else none := by
  rw [accept, gather?_eq]
  cases supplied.entries.all fun e => r.admits e.1 e.2 with
  | true => simp
  | false => rfl

theorem eq_of_accept (accepts : r.accept supplied = some accepted) : accepted = supplied := by
  rw [accept_eq] at accepts
  split at accepts
  next =>
    cases accepts
    rfl
  next => cases accepts

theorem accept_eq_some_iff : r.accept supplied = some supplied ↔
    (∀ e ∈ supplied.entries, r.admits e.1 e.2 = true) ∧ supplied.size ≤ r.maxKeys ∧
      ∀ name ∈ r.required, supplied.contains name = true := by
  rw [← List.all_eq_true, ← List.all_eq_true, accept_eq]
  constructor
  · intro accepted
    split at accepted
    next given => exact given
    next => cases accepted
  · intro given
    exact if_pos given

theorem mem_keys : name ∈ r.keys ↔ name ∈ r.params ∨ r.defaults.contains name = true := by
  rw [keys, NameMap.mem_names_ofList, List.map_map, NameMap.contains_iff, ← List.mem_append]
  exact iff_of_eq (congrArg _ (List.map_id _))

theorem size_le_maxKeys (known : ∀ name ∈ supplied.names, name ∈ r.params ∨ r.defaults.contains name = true) :
    supplied.size ≤ r.maxKeys :=
  NameMap.size_le_of_subset fun name member => mem_keys.2 (known name member)

end UrlRouting.Route
