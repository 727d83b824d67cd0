import UrlRouting.Proofs.Namespace.Projection
import UrlRouting.Proofs.Route.Static

/-! A namespace with one route, which has no parameters. It generates the pattern as it stands, and
recognizes what it has generated if the pieces of the pattern decode alike. Otherwise the route has been
made to match pieces that are decoded, while the path, which does not decode as a whole, is matched as it
stands. -/

namespace UrlRouting.Namespace
open Slash Percent

variable {ns : Namespace} {d : Declaration} {r : Route} {suffix : Suffix}

theorem built_single (compiled : Route.Compiled d r) : Built { new "" with table := .insert .empty r } := by
  have registered : (new "").register d =
      .ok ⟨{ new "" with table := .insert .empty r }, r, (RouteTable.empty.put r).replaced⟩ := by
    rw [register, Route.compile_eq_ok_iff.2 compiled]
    rfl
  exact .register (.new "") registered

theorem generate_static (routes : ns.table.routes = [r]) (static : r.params = []) (suffix : Suffix) :
    ns.generate .empty suffix = some (ns.assemble r .empty suffix) :=
  generate_of_accept routes (Route.accept_empty static)

theorem localPath?_static (built : ns.Built) (mount_unmarked : Unmarked ns.mount.toList)
    (script_unmarked : Unmarked ns.scriptName.toList) (compiled : Route.Compiled d r) (static : r.params = [])
    (unmarked : Unmarked r.pattern.toList) (suffix : Suffix) :
    ns.localPath? (ns.assemble r .empty suffix).url.toList = some (r.render .empty) := by
  rw [toList_assemble]
  exact localPath?_of_mounted ns built.mounted mount_unmarked script_unmarked
    (compiled.unmarked_render_static static unmarked) (compiled.canonical_render_static static) suffix

theorem recognize_of_matchesShape {url : String} {path : List Char} (routes : ns.table.routes = [r])
    (compiled : Route.Compiled d r) (static : r.params = []) (here : ns.localPath? url.toList = some path)
    (shaped : r.matchesShape (unescape path) = true) :
    ns.recognize url = .matched r (String.ofList path) r.defaults := by
  have only : ns.table.routes = [] ++ r :: [] := routes
  exact recognize_of_first ns here only (List.forall_mem_nil _) shaped (compiled.capture_static static shaped)

theorem recognize_of_not_matchesShape {url : String} {path : List Char} (routes : ns.table.routes = [r])
    (here : ns.localPath? url.toList = some path) (other : ¬r.matchesShape (unescape path) = true) :
    ns.recognize url = .unknown (String.ofList path) := by
  have none : [r].filter (·.matchesShape (unescape path)) = [] :=
    List.filter_eq_nil_iff.2 fun q member => List.mem_singleton.1 member ▸ other
  rw [recognize_eq_outcome here, routes, none]
  rfl

/-- The URL of a route without parameters is recognized with the defaults if all pieces of the pattern
decode, or none is changed by decoding. It is unknown if some piece does not decode and another does, to
something else. -/
theorem recognize_static (built : ns.Built) (mount_unmarked : Unmarked ns.mount.toList)
    (script_unmarked : Unmarked ns.scriptName.toList) (routes : ns.table.routes = [r])
    (static : r.params = []) (unmarked : Unmarked r.pattern.toList) (suffix : Suffix) :
    ∃ g, ns.generate .empty suffix = some g ∧ g.route = r ∧
      (DecodeAlike r.pieces →
        ns.recognize g.url = .matched r (String.ofList (r.render .empty)) r.defaults) ∧
      (¬DecodeAlike r.pieces → ns.recognize g.url = .unknown (String.ofList (r.render .empty))) := by
  have member : r ∈ ns.table.routes := by
    rw [routes]
    exact List.mem_cons_self
  obtain ⟨d, compiled⟩ := built.compiled r member
  have here := localPath?_static built mount_unmarked script_unmarked compiled static unmarked suffix
  have shape := compiled.matchesShape_render_static static .empty
  exact ⟨_, generate_static routes static suffix, rfl,
    fun alike => recognize_of_matchesShape routes compiled static here (shape.2 alike),
    fun apart => recognize_of_not_matchesShape routes here (shape.not.2 apart)⟩

/-- Pieces with a plus sign, escapes of a character and a percent sign that begins no escape. -/
theorem recognize_static_accent : ∃ (ns : Namespace) (r : Route) (g : Generated), ns.Built ∧
    Unmarked ns.mount.toList ∧ Unmarked ns.scriptName.toList ∧ ns.table.routes = [r] ∧ r.params = [] ∧
    Unmarked r.pattern.toList ∧ DecodeAlike r.pieces ∧
    ns.generate .empty ⟨[("q", "?")], some "top"⟩ = some g ∧
    ns.recognize g.url = .matched r (String.ofList (r.render .empty)) (.ofList [("view", .int 1)]) := by
  obtain ⟨r, compiles⟩ := Route.exists_compile
    (d := ⟨"/a+b//caf%C3%A9/100%/", none, .ofList [("view", .int 1)], .empty⟩) (by decide +kernel)
  have compiled := Route.compile_eq_ok_iff.1 compiles
  have built : Built (setScriptName (setMount { new "" with table := .insert .empty r } "en//") "/app.php") :=
    .setScriptName (.setMount (built_single compiled) _) _
  have static : r.params = [] := compiled.params_eq (by decide +kernel)
  have unmarked : Unmarked r.pattern.toList := by
    rw [compiled.pattern_eq]
    decide
  have alike : DecodeAlike r.pieces := by
    have pieces : r.pieces = ["a+b".toList, "caf%C3%A9".toList, "100%".toList] := by
      rw [Route.pieces, compiled.pattern_eq]
      decide
    rw [pieces]
    refine .inl ?_
    simp only [List.forall_mem_cons]
    exact ⟨⟨"a b".toList, by decide +kernel⟩, ⟨"café".toList, by decide +kernel⟩,
      ⟨"100%".toList, by decide +kernel⟩, List.forall_mem_nil _⟩
  have mount : Unmarked (setMount { new "" with table := .insert .empty r } "en//").mount.toList :=
    unmarked_setMount _ (by decide)
  have script : Unmarked "/app.php".toList := by decide
  obtain ⟨g, generated, _, recognized, _⟩ :=
    recognize_static built mount script rfl static unmarked ⟨[("q", "?")], some "top"⟩
  refine ⟨_, r, g, built, mount, script, rfl, static, unmarked, alike, generated, ?_⟩
  rw [recognized alike, compiled.defaults_eq]

/-- The escape of a byte that is no text by itself keeps the plus sign of another piece from being decoded. -/
theorem not_every_static_recognized : ¬∀ (ns : Namespace) (r : Route), ns.Built → ns.mount = "" →
    ns.scriptName = "" → ns.table.routes = [r] → r.params = [] → Unmarked r.pattern.toList →
    ∃ g path, ns.generate .empty .none = some g ∧ ns.recognize g.url = .matched r path r.defaults := by
  intro every
  obtain ⟨r, compiles⟩ := Route.exists_compile (d := ⟨"a+b/%FF", none, .empty, .empty⟩) (by decide +kernel)
  have compiled := Route.compile_eq_ok_iff.1 compiles
  have built := built_single compiled
  have static : r.params = [] := compiled.params_eq (by decide +kernel)
  have unmarked : Unmarked r.pattern.toList := by
    rw [compiled.pattern_eq]
    decide
  have apart : ¬DecodeAlike r.pieces := by
    have pieces : r.pieces = ["a+b".toList, "%FF".toList] := by
      rw [Route.pieces, compiled.pattern_eq]
      decide
    rw [pieces]
    rintro (decode | same)
    · exact absurd ((isSome_utf8?_iff _).2 (decode "%FF".toList (by decide))) (by decide +kernel)
    · exact absurd (same "a+b".toList (by decide)) (by decide +kernel)
  obtain ⟨g, path, generated, recognized⟩ := every _ r built rfl rfl rfl static unmarked
  obtain rfl := Option.some.inj ((generate_static rfl static .none).symm.trans generated)
  have empty : Unmarked "".toList := by decide
  have here := localPath?_static built empty empty compiled static unmarked .none
  have unknown := recognize_of_not_matchesShape rfl here
    ((compiled.matchesShape_render_static static .empty).not.2 apart)
  cases unknown.symm.trans recognized

end UrlRouting.Namespace
