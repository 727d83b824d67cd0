import UrlRouting.Proofs.Namespace.Built
import UrlRouting.Proofs.Namespace.Generation
import UrlRouting.Proofs.Route.Projection

/-! Recognizing a URL and generating from what was found. Where a namespace has one route, of plain
literals and simple slots, this gives a URL that is recognized as the same values, however the first one
was spelled. -/

namespace UrlRouting.Namespace
open Slash Percent

variable {ns : Namespace} {r : Route} {found : ParameterSet} {suffix : Suffix}

theorem generate_of_accept (routes : ns.table.routes = [r]) (accepted : r.accept found = some found) :
    ns.generate found suffix = some (ns.assemble r found suffix) := by
  have first : ns.firstRoute? none found = some r := by
    rw [firstRoute?_none, routes]
    exact List.find?_cons_of_pos (Option.isSome_of_eq_some accepted)
  obtain ⟨s, chosen⟩ : ∃ s, ns.chosen? found = some s := by
    rw [chosen?, first, Option.or_some]
    exact ⟨_, rfl⟩
  have member := mem_of_chosen? chosen
  rw [routes] at member
  rw [generate_eq, chosen, List.mem_singleton.1 member]
  rfl

/-- A URL that is recognized has the values of one that is generated, unless they hold a slash. -/
theorem generate_recognized (built : ns.Built) (mount_unmarked : Unmarked ns.mount.toList)
    (script_unmarked : Unmarked ns.scriptName.toList) (routes : ns.table.routes = [r])
    (plain : ∀ s ∈ r.segments, s.Plain) (simple : ∀ s ∈ Matcher.slots r.segments, s.1 = .simple)
    (unvalidated : r.Unvalidated)
    (absent : ∀ name ∈ r.params, ∀ v, r.defaults.get? name = some v → v.isAbsent = true)
    {url path : String} (recognized : ns.recognize url = .matched r path found)
    (slashless : ∀ name ∈ r.params, ∀ text, found.text? name = some text → '/' ∉ text.toList)
    (suffix : Suffix) :
    ∃ g path', ns.generate found suffix = some g ∧ ns.recognize g.url = .matched r path' found := by
  obtain ⟨member, _, _, captured⟩ := recognize_eq_matched recognized
  obtain ⟨d, compiled⟩ := built.compiled r member
  have textless : ∀ name ∈ r.params, r.defaults.text? name = none := by
    intro name own
    rw [ParameterSet.text?]
    cases default : r.defaults.get? name with
    | none => rfl
    | some v => exact ParamValue.isAbsent_iff.1 (absent name own v default)
  have reversible : r.Reversible := by
    refine ⟨plain, ?_, fun before s after split wild _ => ?_⟩
    · rw [List.countP_eq_zero.2]
      · exact Nat.zero_le 1
      · rintro ⟨kind, name⟩ slot
        rw [simple _ slot]
        exact Bool.false_ne_true
    · obtain ⟨name, part⟩ := wild
      have inside : s ∈ r.segments := by
        rw [split]
        exact List.mem_append_right _ List.mem_cons_self
      have slot : (.wildcard, name) ∈ Matcher.slots r.segments :=
        List.mem_flatMap.2 ⟨s, inside, List.mem_filterMap.2 ⟨.slot .wildcard name, part, rfl⟩⟩
      cases simple _ slot
  obtain ⟨parts, parted⟩ := compiled.exists_parted reversible
  obtain ⟨k, captures⟩ := compiled.exists_captures unvalidated simple captured
  have renders := captures.rendersFirst textless compiled simple
  obtain ⟨canonical, unmarked⟩ := parted.canonical_render renders
  obtain ⟨shaped, again, captured_again, recovers⟩ := parted.capture_render compiled unvalidated renders
  obtain rfl := captures.eq_of_recovers textless recovers
  have accepted := captures.accept compiled unvalidated simple slashless
  have here := localPath?_of_mounted ns built.mounted mount_unmarked script_unmarked unmarked canonical suffix
  rw [← toList_assemble] at here
  have only : ns.table.routes = [] ++ r :: [] := routes
  exact ⟨_, _, generate_of_accept routes accepted,
    recognize_of_first ns here only (List.forall_mem_nil _) shaped captured_again⟩

/-- A path that is no text once decoded: its value is spelled otherwise in the URL generated from it. -/
theorem generate_recognized_raw : ∃ (ns : Namespace) (r : Route) (found : ParameterSet) (path : String)
    (g : Generated) (path' : String), ns.Built ∧ Unmarked ns.mount.toList ∧ Unmarked ns.scriptName.toList ∧
      ns.table.routes = [r] ∧ (∀ s ∈ r.segments, s.Plain) ∧
      (∀ s ∈ Matcher.slots r.segments, s.1 = .simple) ∧ r.Unvalidated ∧
      (∀ name ∈ r.params, ∀ v, r.defaults.get? name = some v → v.isAbsent = true) ∧
      ns.recognize "/blog/a+b%ff/" = .matched r path found ∧
      (∀ name ∈ r.params, ∀ text, found.text? name = some text → '/' ∉ text.toList) ∧
      ns.generate found .none = some g ∧ ns.recognize g.url = .matched r path' found := by
  have run : recognizes ⟨"blog/:post/:page", none, .ofList [("page", .absent), ("view", .int 1)], .empty⟩
      "/blog/a+b%ff/" (fun r found => decide (r.segments =
        [⟨[.literal "blog"]⟩, ⟨[.slot .simple "post"]⟩, ⟨[.slot .simple "page"]⟩] ∧
        found = .ofList [("page", .absent), ("post", .text "a+b%ff"), ("view", .int 1)])) = true := by
    decide +kernel
  obtain ⟨r, path, found, compiled, built, recognized, outcome⟩ := exists_of_recognizes run
  obtain ⟨segments, rfl⟩ := of_decide_eq_true outcome
  have params : r.params = ["post", "page"] := by
    rw [Route.params, segments]
    rfl
  have plain : ∀ s ∈ r.segments, s.Plain := by
    rw [segments]
    simp only [List.forall_mem_cons, List.not_mem_nil, false_implies, implies_true, and_true]
    exact ⟨⟨_, rfl, by decide, by decide⟩, ⟨_, rfl, trivial⟩, _, rfl, trivial⟩
  have simple : ∀ s ∈ Matcher.slots r.segments, s.1 = .simple := by
    rw [segments]
    decide
  have unvalidated : r.Unvalidated := by
    rw [Route.Unvalidated, compiled.validators_eq]
    exact fun _ _ => rfl
  have absent : ∀ name ∈ r.params, ∀ v, r.defaults.get? name = some v → v.isAbsent = true := by
    rw [params, compiled.defaults_eq]
    decide
  have slashless : ∀ name ∈ r.params, ∀ text, ParameterSet.text? (.ofList
      [("page", .absent), ("post", .text "a+b%ff"), ("view", .int 1)]) name = some text →
        '/' ∉ text.toList := by
    rw [params]
    decide
  have unmarked : Unmarked "".toList := by decide
  obtain ⟨g, path', generated, again⟩ := generate_recognized built unmarked unmarked rfl plain simple
    unvalidated absent recognized slashless .none
  exact ⟨_, r, _, path, g, path', built, unmarked, unmarked, rfl, plain, simple, unvalidated, absent,
    recognized, slashless, generated, again⟩

end UrlRouting.Namespace
