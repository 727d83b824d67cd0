import UrlRouting.Proofs.Namespace.Choice
import UrlRouting.Proofs.Percent.Query

/-! What is put after a path: a query and a fragment. They are told from the URL by its first marks, as no
mark is left bare in a query, and recognition does not look at them. -/

namespace UrlRouting
open Slash Percent

/-- The fragment, unless it is empty. -/
def Suffix.present? (s : Suffix) : Option (List Char) := (s.fragment.filter (· ≠ "")).map String.toList

theorem Suffix.render_eq (s : Suffix) :
    s.render = encodeQuery s.query ++ s.present?.elim [] ('#' :: ·) := by
  unfold render present?
  cases s.fragment with
  | none => rfl
  | some fragment => by_cases empty : fragment = "" <;> simp [empty, Option.filter_some]

theorem Suffix.render_none : Suffix.none.render = [] := rfl

theorem hash_notMem_encodeQuery (pairs : List (String × String)) : '#' ∉ encodeQuery pairs := by
  intro member
  unfold encodeQuery at member
  split at member
  · cases member
  · have behind := List.mem_of_ne_of_mem (by decide) member
    exact absurd (mem_joinPairs behind) (by decide)

/-- A fragment begins behind the first of its marks, whatever it holds. -/
theorem cut_hash {base : List Char} (unmarked : Unmarked base) (suffix : Suffix) :
    cut '#' (base ++ suffix.render) = (base ++ encodeQuery suffix.query, suffix.present?) := by
  have free : '#' ∉ base ++ encodeQuery suffix.query := fun member =>
    (List.mem_append.1 member).elim unmarked.2 (hash_notMem_encodeQuery _)
  rw [suffix.render_eq, ← List.append_assoc]
  cases suffix.present? with
  | none =>
    rw [Option.elim_none, List.append_nil]
    exact cut_of_notMem free
  | some fragment => exact cut_append_cons free fragment

/-- A query begins behind the first of its marks and is read as the pairs it was written from. -/
theorem exists_cut_query {base : List Char} (unmarked : Unmarked base) (pairs : List (String × String)) :
    ∃ query, cut '?' (base ++ encodeQuery pairs) = (base, query) ∧
      readQuery? (query.getD []) = some pairs := by
  cases pairs with
  | nil => exact ⟨none, by rw [encodeQuery, if_pos List.isEmpty_nil, List.append_nil,
      cut_of_notMem unmarked.1], rfl⟩
  | cons p rest =>
    refine ⟨some (joinPairs (p :: rest)), ?_, readQuery?_joinPairs _⟩
    exact cut_append_cons unmarked.1 _

namespace Namespace

variable {ns : Namespace} {params : ParameterSet} {g : Generated}

theorem assemble_suffix (ns : Namespace) (r : Route) (params : ParameterSet) (suffix : Suffix) :
    (ns.assemble r params suffix).url.toList =
      (ns.assemble r params .none).url.toList ++ suffix.render := by
  rw [toList_assemble, toList_assemble, embed, embed, Suffix.render_none, List.append_nil]

theorem recognize_congr {u v : String} (same : pathOf u.toList = pathOf v.toList) :
    ns.recognize u = ns.recognize v := by
  rw [recognize, recognize, localPath?, localPath?, same]

/-- A query and a fragment are put behind the URL that is generated without them. The fragment is read back
as it is, the query as its pairs, and the URL is recognized as it is without them. -/
theorem generate_suffixed (generated : ns.generate params .none = some g) (unmarked : Unmarked g.url.toList)
    (suffix : Suffix) : ∃ h, ns.generate params suffix = some h ∧ h.route = g.route ∧
      g.url.toList <+: h.url.toList ∧
      (∃ front query, cut '#' h.url.toList = (front, suffix.present?) ∧
        cut '?' front = (g.url.toList, query) ∧ readQuery? (query.getD []) = some suffix.query) ∧
      ns.recognize h.url = ns.recognize g.url := by
  rw [generate_eq] at generated
  obtain ⟨r, chosen, rfl⟩ := Option.map_eq_some_iff.1 generated
  have url := ns.assemble_suffix r params suffix
  refine ⟨ns.assemble r params suffix, by rw [generate_eq, chosen, Option.map_some], rfl, ?_, ?_, ?_⟩
  · rw [url]
    exact List.prefix_append _ _
  · obtain ⟨query, before, read⟩ := exists_cut_query unmarked suffix.query
    rw [url]
    exact ⟨_, query, cut_hash unmarked suffix, before, read⟩
  · have bare := pathOf_append unmarked .none
    rw [Suffix.render_none, List.append_nil] at bare
    exact recognize_congr (by rw [url, pathOf_append unmarked, bare])

/-- Marks within names, values and the fragment. -/
theorem generate_suffixed_marks : ∃ (ns : Namespace) (g h : Generated),
    ns.generate (.ofList [("id", .int 3)]) .none = some g ∧ g.url = "/page/3" ∧ Unmarked g.url.toList ∧
    ns.generate (.ofList [("id", .int 3)]) ⟨[("a&b", "=?"), ("", ""), ("#", "é")], some "x?#y"⟩ = some h ∧
    h.url = "/page/3?a%26b=%3D%3F&=&%23=%C3%A9#x?#y" ∧ h.route = g.route ∧ g.url.toList <+: h.url.toList ∧
    (∃ front query, cut '#' h.url.toList = (front, some "x?#y".toList) ∧
      cut '?' front = (g.url.toList, query) ∧
      readQuery? (query.getD []) = some [("a&b", "=?"), ("", ""), ("#", "é")]) ∧
    ns.recognize h.url = ns.recognize g.url := by
  have run : (((new "").register ⟨"page/:id", none, .empty, .empty⟩).toOption.bind fun one =>
      (one.state.generate (.ofList [("id", .int 3)]) .none).filter (·.url == "/page/3")).isSome = true := by
    decide +kernel
  obtain ⟨one, registered⟩ := (new "").exists_registered
    (d := ⟨"page/:id", none, .empty, .empty⟩) (by decide +kernel)
  rw [registered, Except.toOption, Option.bind_some] at run
  obtain ⟨g, outcome⟩ := Option.isSome_iff_exists.1 run
  obtain ⟨generated, same⟩ := Option.filter_eq_some_iff.1 outcome
  have url : g.url = "/page/3" := beq_iff_eq.1 same
  have unmarked : Unmarked g.url.toList := by
    rw [url]
    decide
  obtain ⟨h, suffixed, route, ahead, read, recognized⟩ := generate_suffixed generated unmarked
    ⟨[("a&b", "=?"), ("", ""), ("#", "é")], some "x?#y"⟩
  refine ⟨one.state, g, h, generated, url, unmarked, suffixed, ?_, route, ahead, read, recognized⟩
  rw [generate_eq] at generated suffixed
  obtain ⟨r, chosen, rfl⟩ := Option.map_eq_some_iff.1 generated
  rw [chosen, Option.map_some, Option.some.injEq] at suffixed
  rw [← String.toList_inj, ← suffixed, assemble_suffix, url]
  decide +kernel

end Namespace

end UrlRouting
