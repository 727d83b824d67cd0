import Mathlib.Data.List.TakeWhile
import UrlRouting.Proofs.Namespace.Built

/-! What is left of a URL within a namespace. It begins with a slash, does not end in one and holds
neither query nor fragment. It is a path by itself, unless two slashes follow the mount point in the
URL: these stay, as nothing behind the mount point is trimmed. -/

namespace UrlRouting.Namespace
open Slash

theorem unmarked_pathOf (url : List Char) : Unmarked (pathOf url) := by
  have kept (c : Char) (member : c ∈ pathOf url) : c ≠ '?' ∧ c ≠ '#' := by
    simpa using List.mem_takeWhile_imp member
  exact ⟨fun member => (kept _ member).1 rfl, fun member => (kept _ member).2 rfl⟩

theorem mem_of_mem_rooted {s : List Char} {c : Char} (member : c ∈ rooted s) : c = '/' ∨ c ∈ s :=
  (List.mem_cons.1 member).imp_right mem_of_mem_trim

theorem mem_of_mem_stripScript {script path : List Char} {c : Char} (member : c ∈ stripScript script path) :
    c = '/' ∨ c ∈ path := by
  unfold stripScript at member
  extract_lets trimmed at member
  split at member
  · exact .inr member
  · split at member
    next rest stripped =>
      refine (mem_of_mem_rooted member).imp_right fun inside => ?_
      have whole := (eq_append_of_stripPieces? stripped).1
      exact List.mem_of_mem_drop (whole ▸ List.mem_append_right _ inside)
    next => exact .inr member

theorem unmarked_servedPath (ns : Namespace) (url : List Char) : Unmarked (ns.servedPath url) := by
  have kept (c : Char) (member : c ∈ ns.servedPath url) : c = '/' ∨ c ∈ pathOf url := by
    rcases mem_of_mem_stripScript member with slash | inside
    · exact .inl slash
    · exact mem_of_mem_rooted inside
  obtain ⟨query, fragment⟩ := unmarked_pathOf url
  exact ⟨fun member => query ((kept _ member).resolve_left (by decide)),
    fun member => fragment ((kept _ member).resolve_left (by decide))⟩

/-- Two slashes follow the mount point in the URL. -/
def Gapped (ns : Namespace) (url : List Char) : Prop :=
  ns.mount ≠ "" ∧ ns.mount.toList ++ ['/', '/'] <+: ns.servedPath url

/-- A path within the namespace has a slash at its start, none at its end unless it is one, and neither
query nor fragment. It has no second slash at its start just if the URL has none behind the mount point. -/
theorem localPath?_canonical (ns : Namespace) (url path : List Char) (here : ns.localPath? url = some path) :
    Unmarked path ∧ path.head? = some '/' ∧ (path = ['/'] ∨ path.getLast? ≠ some '/') ∧
      (Canonical path ↔ ¬ns.Gapped url) := by
  have canonical := canonical_servedPath ns url
  have unmarked := unmarked_servedPath ns url
  rcases localPath?_cases here with ⟨unmounted, rfl⟩ | ⟨mounted, ⟨whole, rfl⟩ | ⟨whole, slash, ending⟩⟩
  · have closed : ¬ns.Gapped url := fun gapped => gapped.1 (by simpa using unmounted)
    exact ⟨unmarked, canonical.head?, canonical.ending, iff_of_true canonical closed⟩
  · have closed : ¬ns.Gapped url := by
      rintro ⟨_, ahead⟩
      have longer := (whole ▸ ahead).length_le
      rw [List.length_append, List.length_cons] at longer
      omega
    exact ⟨by decide, rfl, .inl rfl, iff_of_true ⟨[], rfl, bare_nil⟩ closed⟩
  · have gapped : ns.Gapped url ↔ ['/', '/'] <+: path := by
      rw [Gapped, whole, List.prefix_append_right_inj]
      exact and_iff_right fun none => mounted (by simp [none])
    rw [whole] at unmarked
    refine ⟨⟨fun member => unmarked.1 (List.mem_append_right _ member),
      fun member => unmarked.2 (List.mem_append_right _ member)⟩, slash, .inr ending, ?_⟩
    rw [gapped]
    exact canonical_iff_of_ending slash ending

theorem localPath?_canonical_gap :
    ((new "").setMount "/en").localPath? "/en//x?y".toList = some "//x".toList ∧
      Unmarked "//x".toList ∧ "//x".toList.head? = some '/' ∧
      ("//x".toList = ['/'] ∨ "//x".toList.getLast? ≠ some '/') ∧
      (Canonical "//x".toList ↔ ¬((new "").setMount "/en").Gapped "/en//x?y".toList) := by
  have here : ((new "").setMount "/en").localPath? "/en//x?y".toList = some "//x".toList := by decide
  exact ⟨here, localPath?_canonical _ _ _ here⟩

/-- Slashes between the mount point and what follows it are left. -/
theorem not_every_localPath?_canonical : ¬∀ (ns : Namespace) (url path : List Char), ns.Built →
    ns.localPath? url = some path → Canonical path ∧ Unmarked path := by
  intro all
  have built : ((new "").setMount "/en").Built := .setMount (.new "") "/en"
  obtain ⟨⟨s, same, bare⟩, _⟩ := all _ "/en//x".toList "//x".toList built (by decide)
  have rest : s = "/x".toList := (List.cons.inj same).2.symm
  exact bare.1 (rest ▸ rfl)

end UrlRouting.Namespace
