import UrlRouting.Proofs.NameMap
import UrlRouting.Route.Table

/-! Tables as they are filled and cleared. The index of a table holds the place of every route, so no
two routes have one pattern, and a table is determined by what was put in since it was last cleared: the
patterns in the order in which they first came, each with the route that came last. -/

namespace UrlRouting

theorem getElem?_concat_eq_some_iff {α : Type} {xs : List α} {x y : α} {i : Nat} :
    (xs ++ [x])[i]? = some y ↔ xs[i]? = some y ∨ i = xs.length ∧ x = y := by
  rw [List.getElem?_append]
  split
  next inside => rw [or_iff_left fun last => Nat.ne_of_lt inside last.1]
  next outside =>
    have last : i - xs.length = 0 ↔ i = xs.length := by omega
    simp [List.getElem?_singleton, List.getElem?_eq_none (Nat.le_of_not_lt outside), last]

theorem eraseDups_concat (xs : List String) (x : String) :
    (xs ++ [x]).eraseDups = if x ∈ xs then xs.eraseDups else xs.eraseDups ++ [x] := by
  rw [List.eraseDups_append, List.removeAll, List.filter_cons]
  by_cases seen : x ∈ xs <;> simp [seen, List.eraseDups_cons]

theorem eraseDups_append_of_subset {xs ys : List String} (seen : ys ⊆ xs) :
    (xs ++ ys).eraseDups = xs.eraseDups := by
  have nothing : ys.removeAll xs = [] := by
    rw [List.removeAll, List.filter_eq_nil_iff]
    exact fun y member => by simp [seen member]
  rw [List.eraseDups_append, nothing, List.eraseDups_nil, List.append_nil]

namespace RouteTable

def patterns (t : RouteTable) : List String := t.routes.map (·.pattern)

/-- The index finds a pattern at a place just if the route there has the pattern. -/
def Indexed (t : RouteTable) : Prop :=
  ∀ pattern place, t.places.get? pattern = some place ↔ t.patterns[place]? = some pattern

variable {t : RouteTable} {route r : Route} {pattern : String} {place : Nat}

theorem getElem?_patterns :
    t.patterns[place]? = some pattern ↔ ∃ r, t.routes[place]? = some r ∧ r.pattern = pattern := by
  rw [patterns, List.getElem?_map, Option.map_eq_some_iff]

theorem mem_patterns : pattern ∈ t.patterns ↔ ∃ r ∈ t.routes, r.pattern = pattern := List.mem_map

theorem mem_of_get? (found : t.get? pattern = some r) : r ∈ t.routes := by
  obtain ⟨place, _, here⟩ := Option.bind_eq_some_iff.1 found
  exact List.mem_of_getElem? here

theorem mem_insert (member : r ∈ (t.insert route).routes) : r = route ∨ r ∈ t.routes := by
  unfold insert put at member
  split at member
  · exact (List.mem_or_eq_of_mem_set member).symm
  · exact (List.mem_append.1 member).symm.imp_left List.mem_singleton.1

theorem indexed_empty : empty.Indexed := by
  intro pattern place
  constructor
  · intro found
    cases found
  · intro stored
    cases stored

namespace Indexed

theorem nodup (indexed : t.Indexed) : t.patterns.Nodup := by
  refine List.nodup_iff_getElem?_ne_getElem?.2 fun i j before bound same => ?_
  have there : t.patterns[j]? = some t.patterns[j] := List.getElem?_eq_getElem bound
  have at_i := (indexed _ i).2 (same.trans there)
  have at_j := (indexed _ j).2 there
  exact Nat.ne_of_lt before (Option.some.inj (at_i.symm.trans at_j))

theorem get?_eq_some_iff (indexed : t.Indexed) :
    t.get? pattern = some r ↔ r ∈ t.routes ∧ r.pattern = pattern := by
  rw [get?, Option.bind_eq_some_iff]
  constructor
  · intro found
    obtain ⟨place, indexes, here⟩ := found
    obtain ⟨s, there, same⟩ := getElem?_patterns.1 ((indexed pattern place).1 indexes)
    obtain rfl : r = s := Option.some.inj (here.symm.trans there)
    exact ⟨List.mem_of_getElem? here, same⟩
  · intro stored
    obtain ⟨place, here⟩ := List.mem_iff_getElem?.1 stored.1
    exact ⟨place, (indexed pattern place).2 (getElem?_patterns.2 ⟨r, here, stored.2⟩), here⟩

/-- No two routes have one pattern. -/
theorem unique (indexed : t.Indexed) {s : Route} (here : r ∈ t.routes) (there : s ∈ t.routes)
    (same : r.pattern = s.pattern) : r = s := by
  have found := indexed.get?_eq_some_iff.2 ⟨here, same⟩
  exact Option.some.inj (found.symm.trans (indexed.get?_eq_some_iff.2 ⟨there, rfl⟩))

/-- Looking a pattern up in the index is looking for it along the table. -/
theorem get?_eq_find? (indexed : t.Indexed) (pattern : String) :
    t.get? pattern = t.routes.find? (·.pattern == pattern) := by
  cases along : t.routes.find? (·.pattern == pattern) with
  | some r =>
    have same := List.find?_some along
    exact indexed.get?_eq_some_iff.2 ⟨List.mem_of_find?_eq_some along, beq_iff_eq.1 same⟩
  | none =>
    rw [List.find?_eq_none] at along
    refine Option.eq_none_iff_forall_ne_some.2 fun r found => ?_
    obtain ⟨member, same⟩ := indexed.get?_eq_some_iff.1 found
    exact along r member (beq_iff_eq.2 same)

/-- A route is put in the place of the one with its pattern, or last if there is none. -/
theorem put_cases (indexed : t.Indexed) (route : Route) :
    (∃ place, t.patterns[place]? = some route.pattern ∧
      t.put route = ⟨{ t with routes := t.routes.set place route }, true⟩) ∨
    (route.pattern ∉ t.patterns ∧ t.put route =
      ⟨⟨t.routes ++ [route], t.places.insert route.pattern t.routes.length⟩, false⟩) := by
  unfold put
  cases found : t.places.get? route.pattern with
  | some place => exact .inl ⟨place, (indexed _ _).1 found, rfl⟩
  | none =>
    refine .inr ⟨fun member => ?_, rfl⟩
    obtain ⟨place, here⟩ := List.mem_iff_getElem?.1 member
    rw [(indexed _ _).2 here] at found
    cases found

theorem replaced_iff (indexed : t.Indexed) (route : Route) :
    (t.put route).replaced = true ↔ route.pattern ∈ t.patterns := by
  rcases indexed.put_cases route with ⟨place, here, done⟩ | ⟨fresh, done⟩
  · rw [done]
    exact iff_of_true rfl (List.mem_of_getElem? here)
  · rw [done]
    exact iff_of_false Bool.false_ne_true fresh

theorem routes_insert_of_getElem? (indexed : t.Indexed) (here : t.patterns[place]? = some route.pattern) :
    (t.insert route).routes = t.routes.set place route := by
  rw [RouteTable.insert, put, (indexed _ _).2 here]

theorem routes_insert_of_notMem (indexed : t.Indexed) (fresh : route.pattern ∉ t.patterns) :
    (t.insert route).routes = t.routes ++ [route] := by
  rcases indexed.put_cases route with ⟨place, here, _⟩ | ⟨_, done⟩
  · exact absurd (List.mem_of_getElem? here) fresh
  · rw [RouteTable.insert, done]

/-- Patterns are kept, and a new one is added last. -/
theorem patterns_insert (indexed : t.Indexed) (route : Route) : (t.insert route).patterns =
    if route.pattern ∈ t.patterns then t.patterns else t.patterns ++ [route.pattern] := by
  split
  next stored =>
    obtain ⟨place, here⟩ := List.mem_iff_getElem?.1 stored
    obtain ⟨bound, same⟩ := List.getElem?_eq_some_iff.1 here
    rw [patterns, indexed.routes_insert_of_getElem? here, List.map_set, ← same]
    exact List.set_getElem_self bound
  next fresh =>
    rw [patterns, indexed.routes_insert_of_notMem fresh, List.map_append]
    rfl

theorem mem_insert_self (indexed : t.Indexed) (route : Route) : route ∈ (t.insert route).routes := by
  rcases indexed.put_cases route with ⟨place, here, _⟩ | ⟨fresh, _⟩
  · obtain ⟨old, there, _⟩ := getElem?_patterns.1 here
    rw [indexed.routes_insert_of_getElem? here]
    exact List.mem_set (List.getElem?_eq_some_iff.1 there).1 route
  · rw [indexed.routes_insert_of_notMem fresh]
    exact List.mem_append_right _ (List.mem_singleton_self _)

theorem insert (indexed : t.Indexed) (route : Route) : (t.insert route).Indexed := by
  intro pattern place
  rw [indexed.patterns_insert]
  rcases indexed.put_cases route with ⟨old, here, done⟩ | ⟨fresh, done⟩
  · rw [if_pos (List.mem_of_getElem? here), RouteTable.insert, done]
    exact indexed pattern place
  · have length : t.patterns.length = t.routes.length := List.length_map _
    rw [if_neg fresh, RouteTable.insert, done, NameMap.get?_insert, getElem?_concat_eq_some_iff, length]
    by_cases same : pattern = route.pattern
    · have elsewhere : t.patterns[place]? ≠ some pattern := fun here =>
        fresh (same ▸ List.mem_of_getElem? here)
      rw [if_pos same, Option.some.injEq, or_iff_right elsewhere, and_iff_left same.symm, eq_comm]
    · rw [if_neg same, indexed, or_iff_left fun last => same last.2.symm]

theorem mem_insert_of_ne (indexed : t.Indexed) (member : r ∈ t.routes)
    (different : r.pattern ≠ route.pattern) : r ∈ (t.insert route).routes := by
  rcases indexed.put_cases route with ⟨place, here, _⟩ | ⟨fresh, _⟩
  · obtain ⟨i, there⟩ := List.mem_iff_getElem?.1 member
    rw [indexed.routes_insert_of_getElem? here]
    have elsewhere : place ≠ i := by
      rintro rfl
      obtain ⟨s, at_place, same⟩ := getElem?_patterns.1 here
      rw [Option.some.inj (there.symm.trans at_place)] at different
      exact different same
    exact List.mem_of_getElem? ((List.getElem?_set_ne elsewhere).trans there)
  · rw [indexed.routes_insert_of_notMem fresh]
    exact List.mem_append_left _ member

theorem get?_insert (indexed : t.Indexed) (route : Route) (pattern : String) :
    (t.insert route).get? pattern = if pattern = route.pattern then some route else t.get? pattern := by
  have after := indexed.insert route
  split
  next same => exact after.get?_eq_some_iff.2 ⟨indexed.mem_insert_self route, same.symm⟩
  next different =>
    ext r
    rw [after.get?_eq_some_iff, indexed.get?_eq_some_iff]
    constructor
    · intro stored
      rcases mem_insert stored.1 with rfl | before
      · exact absurd stored.2.symm different
      · exact ⟨before, stored.2⟩
    · intro stored
      exact ⟨indexed.mem_insert_of_ne stored.1 (stored.2 ▸ different), stored.2⟩

end Indexed

/-- What may be done to a table. -/
inductive Step where
  | insert (route : Route)
  | clear

def Step.apply (t : RouteTable) : Step → RouteTable
  | insert route => t.insert route
  | clear => t.clear

/-- The table that a new one becomes. -/
def run (steps : List Step) : RouteTable := steps.foldl Step.apply empty

def Step.record (history : List Route) : Step → List Route
  | insert route => history ++ [route]
  | clear => []

/-- The routes put in since the table was last cleared, in order. -/
def history (steps : List Step) : List Route := steps.foldl Step.record []

/-- The table has the patterns of the history in the order in which they first came, and of each the
route that came last. -/
structure Lists (t : RouteTable) (history : List Route) : Prop where
  indexed : t.Indexed
  patterns_eq : t.patterns = (history.map (·.pattern)).eraseDups
  latest : ∀ r ∈ t.routes, history.findRev? (·.pattern == r.pattern) = some r

theorem lists_empty : empty.Lists [] := ⟨indexed_empty, rfl, List.forall_mem_nil _⟩

namespace Lists

variable {history : List Route}

theorem insert (lists : t.Lists history) (route : Route) :
    (t.insert route).Lists (history ++ [route]) where
  indexed := lists.indexed.insert route
  patterns_eq := by
    have added : (history ++ [route]).map (·.pattern) = history.map (·.pattern) ++ [route.pattern] :=
      List.map_append
    rw [lists.indexed.patterns_insert, added, eraseDups_concat, lists.patterns_eq]
    simp only [List.mem_eraseDups]
  latest := by
    intro r member
    rw [List.findRev?_eq_find?_reverse, List.reverse_concat, List.find?_cons]
    by_cases same : route.pattern = r.pattern
    · obtain rfl : route = r := (lists.indexed.insert route).unique
        (lists.indexed.mem_insert_self route) member same
      rw [beq_self_eq_true]
    · rw [beq_false_of_ne same, ← List.findRev?_eq_find?_reverse]
      rcases mem_insert member with rfl | before
      · exact absurd rfl same
      · exact lists.latest r before

theorem unique {s : RouteTable} (lists : t.Lists history) (others : s.Lists history) : t = s := by
  have patterns : t.patterns = s.patterns := lists.patterns_eq.trans others.patterns_eq.symm
  have found {u : RouteTable} (lists : u.Lists history) :
      u.routes.map some = u.patterns.map fun pattern => history.findRev? (·.pattern == pattern) := by
    rw [RouteTable.patterns, List.map_map]
    exact List.map_congr_left fun r member => (lists.latest r member).symm
  have routes : t.routes = s.routes := by
    refine (List.map_inj_right fun _ _ => Option.some.inj).1 ?_
    rw [found lists, found others, patterns]
  have places : t.places = s.places := by
    refine NameMap.eq_of_get? fun pattern => Option.ext fun place => ?_
    rw [lists.indexed pattern place, others.indexed pattern place, patterns]
  cases t
  cases s
  cases routes
  cases places
  rfl

/-- Routes that were put in just before make no difference when they are put in again. -/
theorem of_repeated {routes : List Route} (lists : t.Lists (history ++ routes ++ routes)) :
    t.Lists (history ++ routes) where
  indexed := lists.indexed
  patterns_eq := by
    rw [lists.patterns_eq, List.map_append]
    apply eraseDups_append_of_subset
    rw [List.map_append]
    exact List.subset_append_right _ _
  latest := by
    intro r member
    have found := lists.latest r member
    simp only [List.findRev?_eq_find?_reverse, List.reverse_append, List.find?_append] at found ⊢
    rwa [← Option.or_assoc, Option.or_self] at found

end Lists

theorem lists_run (steps : List Step) : (run steps).Lists (history steps) := by
  -- from any table on, so that the steps before the first one may be any
  have onward (t : RouteTable) (before : List Route) (lists : t.Lists before) :
      (steps.foldl Step.apply t).Lists (steps.foldl Step.record before) := by
    induction steps generalizing t before with
    | nil => exact lists
    | cons step steps ih =>
      cases step with
      | insert route => exact ih _ _ (lists.insert route)
      | clear => exact ih _ _ lists_empty
  exact onward empty [] lists_empty

/-- A table into which routes are put one after the other. -/
def insertAll (t : RouteTable) (routes : List Route) : RouteTable := routes.foldl insert t

theorem Lists.insertAll {history : List Route} (lists : t.Lists history) (routes : List Route) :
    (t.insertAll routes).Lists (history ++ routes) := by
  induction routes generalizing t history with
  | nil =>
    rw [List.append_nil]
    exact lists
  | cons route routes ih =>
    have later := ih (lists.insert route)
    rw [List.append_assoc] at later
    exact later

/-- The second time each place gets the route that was put there last the first time. -/
theorem Lists.insertAll_insertAll {history : List Route} (lists : t.Lists history) (routes : List Route) :
    (t.insertAll routes).insertAll routes = t.insertAll routes := by
  have once := lists.insertAll routes
  exact (once.insertAll routes).of_repeated.unique once

end RouteTable

end UrlRouting
