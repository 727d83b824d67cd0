import UrlRouting.Namespace.Recognition
import UrlRouting.Proofs.Percent.Respelling
import UrlRouting.Proofs.Route.Compile
import UrlRouting.Proofs.Text.Slash

/-! What recognition depends on. Of a URL it sees the decoded path within the namespace and no more,
so spellings of one path have one outcome. -/

namespace UrlRouting
open Percent Slash

/-- The outcome for the caller: the parameters, nothing, or the route whose values are invalid. -/
def Recognition.verdict : Recognition → Except Route (Option ParameterSet)
  | matched _ _ params => .ok (some params)
  | invalid route _ _ => .error route
  | unknown _ => .ok none
  | outside => .ok none

namespace Namespace

theorem verdict_recognize_congr (ns : Namespace) {u v : String} {path other : List Char}
    (path_u : ns.localPath? u.toList = some path) (path_v : ns.localPath? v.toList = some other)
    (same : unescape path = unescape other) :
    (ns.recognize u).verdict = (ns.recognize v).verdict := by
  simp only [recognize, path_u, path_v, same]
  split
  next => rfl
  next => split <;> rfl

/-- What becomes of a path within the namespace, by the routes that have its shape. -/
def outcome (path : List Char) (candidates : List Route) : Recognition :=
  match firstCapture? (unescape path) candidates with
  | some (route, params) => .matched route (String.ofList path) params
  | none =>
    match candidates with
    | first :: _ => .invalid first (String.ofList path) candidates.length
    | [] => .unknown (String.ofList path)

theorem recognize_eq_outcome {ns : Namespace} {url : String} {path : List Char}
    (here : ns.localPath? url.toList = some path) :
    ns.recognize url = outcome path (ns.table.routes.filter (·.matchesShape (unescape path))) := by
  rw [recognize, here]
  rfl

theorem recognize_eq_outside {ns : Namespace} {url : String} (away : ns.localPath? url.toList = none) :
    ns.recognize url = .outside := by
  rw [recognize, away]

theorem recognize_eq_matched {ns : Namespace} {url path : String} {r : Route} {found : ParameterSet}
    (recognized : ns.recognize url = .matched r path found) : r ∈ ns.table.routes ∧
      ns.localPath? url.toList = some path.toList ∧ r.matchesShape (unescape path.toList) = true ∧
      r.capture (unescape path.toList) = some found := by
  unfold recognize at recognized
  split at recognized
  next => cases recognized
  next path' here =>
    dsimp only at recognized
    split at recognized
    next route params decided =>
      cases recognized
      obtain ⟨r', candidate, captured⟩ := List.exists_of_findSome?_eq_some decided
      obtain ⟨params', captures, same⟩ := Option.map_eq_some_iff.1 captured
      cases same
      obtain ⟨member, shaped⟩ := List.mem_filter.1 candidate
      rw [String.toList_ofList]
      exact ⟨member, here, shaped, captures⟩
    next => split at recognized <;> cases recognized

theorem recognize_of_first (ns : Namespace) {url : String} {path : List Char} {r : Route}
    {before after : List Route} {params : ParameterSet}
    (path_url : ns.localPath? url.toList = some path) (routes : ns.table.routes = before ++ r :: after)
    (first : ∀ q ∈ before, q.matchesShape (unescape path) = false)
    (shaped : r.matchesShape (unescape path) = true)
    (captured : r.capture (unescape path) = some params) :
    ns.recognize url = .matched r (String.ofList path) params := by
  have candidates : ns.table.routes.filter (·.matchesShape (unescape path)) =
      r :: after.filter (·.matchesShape (unescape path)) := by
    have none : before.filter (·.matchesShape (unescape path)) = [] :=
      List.filter_eq_nil_iff.2 fun q member => by simp [first q member]
    rw [routes, List.filter_append, none, List.nil_append, List.filter_cons, if_pos shaped]
  have decided : firstCapture? (unescape path) (r :: after.filter (·.matchesShape (unescape path))) =
      some (r, params) := by
    rw [firstCapture?, List.findSome?_cons, captured]
    rfl
  simp only [recognize, path_url, candidates, decided]

theorem localPath?_of_bare (ns : Namespace) (unmounted : ns.mount = "") (unscripted : ns.scriptName = "")
    (url : List Char) : ns.localPath? url = some (rooted (pathOf url)) := by
  rw [localPath?, unmounted, unscripted]
  rfl

/-- How the path of a URL is spelled makes no difference to what it is recognized as. -/
theorem recognize_respelled (ns : Namespace) {u v : String} (unmounted : ns.mount = "")
    (unscripted : ns.scriptName = "") (respelled : Respelled (pathOf u.toList) (pathOf v.toList))
    (valid : Valid (octets (pathOf u.toList))) :
    (ns.recognize u).verdict = (ns.recognize v).verdict :=
  ns.verdict_recognize_congr (ns.localPath?_of_bare unmounted unscripted _)
    (ns.localPath?_of_bare unmounted unscripted _) (respelled.unescape_rooted valid)

theorem recognize_respelled_accent : ∃ ns : Namespace, ns.table.size = 1 ∧ ns.mount = "" ∧
    ns.scriptName = "" ∧ Respelled (pathOf "/caf%c3%A9+x?a".toList) (pathOf "/café%20x#b".toList) ∧
    Valid (octets (pathOf "/caf%c3%A9+x?a".toList)) ∧
    (ns.recognize "/caf%c3%A9+x?a").verdict = (ns.recognize "/café%20x#b").verdict := by
  obtain ⟨r, _⟩ := Route.exists_compile (d := ⟨":name", none, .empty, .empty⟩) (by decide +kernel)
  have accent : Escapes (String.utf8EncodeChar 'é') ['%', 'c', '3', '%', 'A', '9'] :=
    .cons ⟨'c', '3', 12, 3, rfl, rfl, rfl, rfl⟩ (.cons ⟨'A', '9', 10, 9, rfl, rfl, rfl, rfl⟩ .nil)
  have respelled : Respelled (pathOf "/caf%c3%A9+x?a".toList) (pathOf "/café%20x#b".toList) :=
    .cons (.same (c := '/') (by decide)) (.cons (.same (c := 'c') (by decide))
      (.cons (.same (c := 'a') (by decide)) (.cons (.same (c := 'f') (by decide))
        (.cons (.unescaped (c := 'é') (by decide) accent)
          (.cons (.blank (x := ['+']) (y := ['%', '2', '0']) (by decide) (by decide))
            (.cons (.same (c := 'x') (by decide)) .nil))))))
  have valid : Valid (octets (pathOf "/caf%c3%A9+x?a".toList)) := ⟨"/café x".toList, by decide +kernel⟩
  exact ⟨{ Namespace.new "" with table := .insert .empty r }, rfl, rfl, rfl, respelled, valid,
    recognize_respelled _ rfl rfl respelled valid⟩

end Namespace

end UrlRouting
