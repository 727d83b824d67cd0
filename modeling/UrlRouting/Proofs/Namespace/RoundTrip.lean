import UrlRouting.Proofs.Namespace.Generation
import UrlRouting.Proofs.Namespace.Mount
import UrlRouting.Proofs.Namespace.Recognition
import UrlRouting.Proofs.Route.RoundTrip

/-! Generated URLs are recognized. A URL is the rendered path of a route, put behind the script name and
the mount point; recognition takes these off and captures the path. -/

namespace UrlRouting
open Slash Percent

namespace Namespace

variable {ns : Namespace} {supplied : ParameterSet} {suffix : Suffix} {g : Generated}

/-- A URL generated through a route is recognized through it, with the texts that were rendered over the
defaults. -/
theorem recognize_generated {mount script : String} {d : Declaration} {r : Route}
    {before after : List Route} {k : Nat} (mount_unmarked : Unmarked mount.toList)
    (script_unmarked : Unmarked script.toList) (compiled : Route.compile d = .ok r)
    (routes : ns.table.routes = before ++ r :: after) (reversible : r.Reversible)
    (unvalidated : r.Unvalidated)
    (generated : ((ns.setMount mount).setScriptName script).generate supplied suffix = some g ∨
      ∃ aliasName,
        ((ns.setMount mount).setScriptName script).generateByAlias aliasName supplied suffix = some g)
    (through : g.route = r) (renders : r.RendersFirst supplied k)
    (first : ∀ q ∈ before, q.matchesShape (unescape (r.render supplied)) = false) :
    ∃ found, ((ns.setMount mount).setScriptName script).recognize g.url =
        .matched r (String.ofList (r.render supplied)) found ∧ r.Recovers supplied found := by
  have result := Route.compile_eq_ok_iff.1 compiled
  obtain ⟨parts, parted⟩ := result.exists_parted reversible
  obtain ⟨canonical, unmarked⟩ := parted.canonical_render renders
  obtain ⟨shaped, found, captured, recovers⟩ := parted.capture_render result unvalidated renders
  have assembled : g = ((ns.setMount mount).setScriptName script).assemble r supplied suffix := by
    rw [← through]
    rcases generated with generated | ⟨aliasName, generated⟩
    · exact (generate_eq_some generated).2
    · exact (firstAccepting?_eq_some generated).2
  have path := localPath?_of_mounted ((ns.setMount mount).setScriptName script)
    (mounted_setMount ns mount) (unmarked_setMount ns mount_unmarked) script_unmarked unmarked canonical suffix
  rw [← toList_assemble, ← assembled] at path
  exact ⟨found, recognize_of_first _ path routes first shaped captured, recovers⟩

theorem recognize_generated_file :
    ∃ (ns : Namespace) (r : Route) (g : Generated) (found : ParameterSet),
      ((ns.setMount "//en/").setScriptName "/app.php/").generate
          (.ofList [("owner", .text "a b 100%"), ("rest", .text "x?//é")]) ⟨[("q", "1")], some "top"⟩ =
        some g ∧
      ((ns.setMount "//en/").setScriptName "/app.php/").recognize g.url =
        .matched r (String.ofList (r.render
          (.ofList [("owner", .text "a b 100%"), ("rest", .text "x?//é")]))) found ∧
      found.get? "owner" = some (.text "a b 100%") ∧ found.get? "rest" = some (.text "x?//é") := by
  have accepted : ((Route.compile ⟨"files/:owner/*rest", none, .ofList [("rest", .absent)], .empty⟩).toOption.bind
      fun r => ((({ new "" with table := .insert .empty r } : Namespace).setMount "//en/").setScriptName
        "/app.php/").generate (.ofList [("owner", .text "a b 100%"), ("rest", .text "x?//é")])
        ⟨[("q", "1")], some "top"⟩).isSome = true := by
    decide +kernel
  obtain ⟨r, compiled⟩ := Route.exists_compile
    (d := ⟨"files/:owner/*rest", none, .ofList [("rest", .absent)], .empty⟩) (by decide +kernel)
  rw [compiled, Except.toOption, Option.bind_some] at accepted
  obtain ⟨g, generated⟩ := Option.isSome_iff_exists.1 accepted
  have through : g.route = r := List.mem_singleton.1 (generate_eq_some generated).1
  have result := Route.compile_eq_ok_iff.1 compiled
  have segments : r.segments =
      [⟨[.literal "files"]⟩, ⟨[.slot .simple "owner"]⟩, ⟨[.slot .wildcard "rest"]⟩] := by
    have read : Pattern.read "files/:owner/*rest" =
        .ok [⟨[.literal "files"]⟩, ⟨[.slot .simple "owner"]⟩, ⟨[.slot .wildcard "rest"]⟩] := by
      decide +kernel
    exact Except.ok.inj (result.segments_read.symm.trans read)
  have start : r.tailStart = 2 := by
    rw [Route.tailStart, segments, result.defaults_eq]
    decide +kernel
  have reversible : r.Reversible := by
    refine ⟨?_, ?_, ?_⟩
    · rw [segments]
      simp only [List.forall_mem_cons]
      exact ⟨⟨_, rfl, by decide, by decide⟩, ⟨_, rfl, trivial⟩, ⟨_, rfl, trivial⟩, List.forall_mem_nil _⟩
    · rw [segments]
      decide
    · intro before s after split wild left
      rw [segments] at split
      rcases before with _ | ⟨_, _ | ⟨_, _ | ⟨_, before⟩⟩⟩
      · obtain ⟨rfl, _⟩ := List.cons.inj split
        simp at wild
      · obtain ⟨rfl, _⟩ := List.cons.inj (List.cons.inj split).2
        simp at wild
      · exact absurd (List.cons.inj (List.cons.inj (List.cons.inj split).2).2).2.symm left
      · simp at split
  have unvalidated : r.Unvalidated := fun name _ => by
    rw [result.validators_eq]
    rfl
  have owner : r.resolve? (.ofList [("owner", .text "a b 100%"), ("rest", .text "x?//é")]) "owner" =
      some "a b 100%" := by
    rw [Route.resolve?, (by decide : ParameterSet.text? _ "owner" = some "a b 100%")]
  have rest : r.resolve? (.ofList [("owner", .text "a b 100%"), ("rest", .text "x?//é")]) "rest" =
      some "x?//é" := by
    rw [Route.resolve?, (by decide : ParameterSet.text? _ "rest" = some "x?//é")]
  have renders : r.RendersFirst (.ofList [("owner", .text "a b 100%"), ("rest", .text "x?//é")]) 3 := by
    refine ⟨by rw [start]; decide, by rw [segments]; decide, ?_, by rw [segments]; exact List.forall_mem_nil _, ?_⟩
    · rw [segments]
      simp [Segment.names, Part.name?, Part.slot?, owner, rest]
    · intro name text member resolved
      rw [segments] at member
      obtain rfl : name = "rest" := by simpa [Matcher.slots, Part.slot?] using member
      obtain rfl := Option.some.inj (rest.symm.trans resolved)
      decide
  have routes : ({ new "" with table := .insert .empty r } : Namespace).table.routes = [] ++ r :: [] := rfl
  obtain ⟨found, recognized, recovers⟩ := recognize_generated (by decide) (by decide) compiled routes
    reversible unvalidated (.inl generated) through renders (List.forall_mem_nil _)
  refine ⟨_, r, g, found, generated, recognized, ?_, ?_⟩
  · rw [recovers, owner, Route.params, segments, if_pos (by decide)]
    rfl
  · rw [recovers, rest, Route.params, segments, if_pos (by decide)]
    rfl

end Namespace

end UrlRouting
