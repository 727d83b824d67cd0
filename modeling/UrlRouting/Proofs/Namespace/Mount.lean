import UrlRouting.Namespace.Generation
import UrlRouting.Namespace.Recognition
import UrlRouting.Proofs.Text.Boundary
import UrlRouting.Proofs.Text.Slash

/-! Where a path stands in a URL. A namespace puts its script name and its mount point before a path
and a suffix after it; reading the URL takes each of them off again and leaves the path. -/

namespace UrlRouting.Namespace
open Slash

/-- A mount point as it is kept: none, or a slash and a text without slashes at its ends. -/
def Mounted (mount : List Char) : Prop := mount = [] ∨ ∃ s, mount = '/' :: s ∧ s ≠ [] ∧ Bare s

theorem mount_setMount (ns : Namespace) (text : String) :
    (ns.setMount text).mount.toList =
      if (trim text.toList).isEmpty then [] else '/' :: trim text.toList := by
  simp only [setMount]
  split <;> simp

theorem mounted_setMount (ns : Namespace) (text : String) :
    Mounted (ns.setMount text).mount.toList := by
  rw [mount_setMount]
  split
  next => exact .inl rfl
  next present =>
    exact .inr ⟨trim text.toList, rfl, by simpa using present, bare_trim text.toList⟩

theorem unmarked_setMount (ns : Namespace) {text : String} (unmarked : Unmarked text.toList) :
    Unmarked (ns.setMount text).mount.toList := by
  rw [mount_setMount]
  split
  next => simp [Unmarked]
  next =>
    refine ⟨fun member => ?_, fun member => ?_⟩
    · exact unmarked.1 (mem_of_mem_trim (List.mem_of_ne_of_mem (by decide) member))
    · exact unmarked.2 (mem_of_mem_trim (List.mem_of_ne_of_mem (by decide) member))

theorem stops_suffix (suffix : Suffix) : Stops (fun c => c != '?' && c != '#') suffix.render := by
  unfold Suffix.render Percent.encodeQuery
  by_cases empty : suffix.query.isEmpty
  · cases suffix.fragment with
    | none => simp [empty, stops_nil]
    | some fragment => by_cases missing : fragment = "" <;> simp [empty, missing, stops_nil, stops_cons]
  · simp [empty, stops_cons]

theorem pathOf_append {s : List Char} (unmarked : Unmarked s) (suffix : Suffix) :
    pathOf (s ++ suffix.render) = s := by
  refine (stops_suffix suffix).takeWhile_append fun c member => ?_
  simp only [Bool.and_eq_true, bne_iff_ne]
  exact ⟨ne_of_mem_of_not_mem member unmarked.1, ne_of_mem_of_not_mem member unmarked.2⟩

theorem stripPieces?_append (head : List Char) {rest : List Char}
    (boundary : rest = [] ∨ rest.head? = some '/') : stripPieces? head (head ++ rest) = some rest := by
  have begins : head.isPrefixOf (head ++ rest) = true :=
    List.isPrefixOf_iff_prefix.2 (List.prefix_append head rest)
  rw [stripPieces?, if_pos begins, List.drop_left]
  rcases boundary with missing | slash
  · simp [missing]
  · simp [slash]

theorem stripScript_rooted (script : List Char) {rest : List Char} (opened : rest.head? = some '/') :
    stripScript script (rooted (script ++ rest)) = rooted rest := by
  unfold stripScript
  by_cases missing : trim script = []
  · rw [if_pos (by simp [missing]), rooted, trim_append_of_trim_eq_nil missing, rooted]
  · obtain ⟨after, follows, boundary, trimmed⟩ := trim_append missing opened
    have stripped : stripPieces? (trim script) ((rooted (script ++ rest)).drop 1) = some after := by
      rw [rooted, List.drop_one, List.tail_cons, follows]
      exact stripPieces?_append _ boundary
    rw [if_neg (by simpa using missing), stripped]
    simp only [rooted, trimmed]

theorem stripMount_rooted {mount path : List Char} (mounted : Mounted mount)
    (canonical : Canonical path) : stripMount mount (rooted (mount ++ path)) = some path := by
  obtain ⟨s, rfl, bare⟩ := canonical
  rcases mounted with rfl | ⟨core, rfl, present, core_bare⟩
  · have trimmed : trim ('/' :: s) = s := by simpa [run] using trim_eq_of_bare bare 1 0
    simp [stripMount, rooted, trimmed]
  · have nonempty : ('/' :: core).isEmpty = false := rfl
    by_cases missing : s = []
    · subst missing
      have trimmed : trim ('/' :: core ++ ['/']) = core := by
        simpa [run] using trim_eq_of_bare core_bare 1 1
      have stripped := stripPieces?_append ('/' :: core) (.inl rfl : [] = [] ∨ _)
      rw [List.append_nil] at stripped
      simp only [stripMount, nonempty, Bool.false_eq_true, if_false, rooted, trimmed, stripped,
        Option.map_some, List.isEmpty_nil, if_true]
    · have trimmed : trim ('/' :: core ++ '/' :: s) = core ++ '/' :: s := by
        have both := core_bare.append bare present missing ['/']
        simpa [run] using trim_eq_of_bare both 1 0
      have stripped := stripPieces?_append ('/' :: core) (.inr rfl : '/' :: s = [] ∨ _)
      simp only [stripMount, nonempty, Bool.false_eq_true, if_false, rooted, trimmed]
      rw [← List.cons_append, stripped]
      rfl

theorem exists_rooted_stripScript (script s : List Char) : ∃ t, stripScript script (rooted s) = rooted t := by
  unfold stripScript
  extract_lets trimmed
  split
  · exact ⟨s, rfl⟩
  · split
    next rest _ => exact ⟨rest, rfl⟩
    next => exact ⟨s, rfl⟩

theorem eq_append_of_stripPieces? {head text rest : List Char}
    (stripped : stripPieces? head text = some rest) :
    text = head ++ rest ∧ (rest = [] ∨ rest.head? = some '/') := by
  unfold stripPieces? at stripped
  split at stripped
  next begins =>
    obtain ⟨more, rfl⟩ := List.isPrefixOf_iff_prefix.1 begins
    simp only [List.drop_left] at stripped
    split at stripped
    next boundary =>
      cases stripped
      exact ⟨rfl, by simpa using boundary⟩
    next => cases stripped
  next => cases stripped

/-- The path of a URL without the script name, as it stands under the mount point. -/
def servedPath (ns : Namespace) (url : List Char) : List Char :=
  stripScript ns.scriptName.toList (rooted (pathOf url))

theorem canonical_servedPath (ns : Namespace) (url : List Char) : Canonical (ns.servedPath url) := by
  obtain ⟨s, same⟩ := exists_rooted_stripScript ns.scriptName.toList (pathOf url)
  rw [servedPath, same]
  exact canonical_rooted s

theorem localPath?_cases {ns : Namespace} {url path : List Char} (here : ns.localPath? url = some path) :
    ns.mount.toList = [] ∧ path = ns.servedPath url ∨
      ns.mount.toList ≠ [] ∧ (ns.servedPath url = ns.mount.toList ∧ path = ['/'] ∨
        ns.servedPath url = ns.mount.toList ++ path ∧ path.head? = some '/' ∧ path.getLast? ≠ some '/') := by
  change stripMount ns.mount.toList (ns.servedPath url) = some path at here
  unfold stripMount at here
  split at here
  next unmounted =>
    cases here
    exact .inl ⟨by simpa using unmounted, rfl⟩
  next mounted =>
    have mounted : ns.mount.toList ≠ [] := by simpa using mounted
    refine .inr ⟨mounted, ?_⟩
    obtain ⟨rest, stripped, rfl⟩ := Option.map_eq_some_iff.1 here
    obtain ⟨whole, rfl | slash⟩ := eq_append_of_stripPieces? stripped
    · exact .inl ⟨by rw [whole, List.append_nil], rfl⟩
    · have present : rest ≠ [] := by
        rintro rfl
        cases slash
      rw [if_neg (by simpa using present)]
      refine .inr ⟨whole, slash, ?_⟩
      rcases (canonical_servedPath ns url).ending with root | ending
      · rw [whole, List.append_eq_singleton_iff] at root
        rcases root with ⟨none, _⟩ | ⟨_, none⟩
        · exact absurd none mounted
        · exact absurd none present
      · rwa [whole, List.getLast?_append_of_ne_nil _ present] at ending

/-- Where the mount point is kept as it should be, reading a URL takes off what was put around a path. -/
theorem localPath?_of_mounted (ns : Namespace) (mounted : Mounted ns.mount.toList)
    (mount_unmarked : Unmarked ns.mount.toList) (script_unmarked : Unmarked ns.scriptName.toList)
    {path : List Char} (path_unmarked : Unmarked path) (canonical : Canonical path) (suffix : Suffix) :
    ns.localPath? (ns.embed path suffix) = some path := by
  have opened : (ns.mount.toList ++ path).head? = some '/' := by
    rcases mounted with none | ⟨s, some, _⟩
    · rw [none, List.nil_append, canonical.head?]
    · rw [some]
      rfl
  have cut : pathOf (ns.embed path suffix) = ns.scriptName.toList ++ (ns.mount.toList ++ path) := by
    rw [embed, pathOf_append, List.append_assoc]
    exact (script_unmarked.append mount_unmarked).append path_unmarked
  rw [localPath?, cut, stripScript_rooted _ opened, stripMount_rooted mounted canonical]

/-- Reading a URL takes off what the namespace has put around a path. -/
theorem localPath?_embed (ns : Namespace) (mount script : String) (path : List Char) (suffix : Suffix)
    (mount_unmarked : Unmarked mount.toList) (script_unmarked : Unmarked script.toList)
    (path_unmarked : Unmarked path) (canonical : Canonical path) :
    ((ns.setMount mount).setScriptName script).localPath?
      (((ns.setMount mount).setScriptName script).embed path suffix) = some path := by
  have mounted := mounted_setMount ns mount
  have kept := unmarked_setMount ns mount_unmarked
  exact localPath?_of_mounted ((ns.setMount mount).setScriptName script) mounted kept script_unmarked
    path_unmarked canonical suffix

theorem localPath?_embed_slashes :
    Unmarked "//en/".toList ∧ Unmarked "index.php//".toList ∧ Unmarked "/a//b".toList ∧
      Canonical "/a//b".toList ∧
      (((new "").setMount "//en/").setScriptName "index.php//").localPath?
        ((((new "").setMount "//en/").setScriptName "index.php//").embed "/a//b".toList
          ⟨[("q", "?")], some "top"⟩) = some "/a//b".toList := by
  have mount : Unmarked "//en/".toList := by decide
  have script : Unmarked "index.php//".toList := by decide
  have path : Unmarked "/a//b".toList := by decide
  have canonical : Canonical "/a//b".toList := ⟨"a//b".toList, rfl, by decide⟩
  exact ⟨mount, script, path, canonical, localPath?_embed _ _ _ _ _ mount script path canonical⟩

end UrlRouting.Namespace
