import Mathlib.Data.List.Induction
import UrlRouting.Proofs.Text.Boundary
import UrlRouting.Proofs.Text.Slash

/-! Paths as texts behind slashes. The texts can be told from the path if all but one of them are
without slashes, and it is known how many there are. -/

namespace UrlRouting.Slash

/-- Each text behind a slash. -/
def path (texts : List (List Char)) : List Char := texts.flatMap ('/' :: ·)

theorem path_cons (x : List Char) (texts : List (List Char)) :
    path (x :: texts) = '/' :: (x ++ path texts) := List.flatMap_cons

theorem path_append (texts more : List (List Char)) : path (texts ++ more) = path texts ++ path more :=
  List.flatMap_append

theorem path_singleton (x : List Char) : path [x] = '/' :: x := List.flatMap_singleton ..

theorem path_eq_nil_iff {texts : List (List Char)} : path texts = [] ↔ texts = [] := by
  cases texts with
  | nil => exact ⟨fun _ => rfl, fun _ => rfl⟩
  | cons x texts => exact ⟨nofun, nofun⟩

theorem path_boundary (texts : List (List Char)) : path texts = [] ∨ (path texts).head? = some '/' := by
  cases texts with
  | nil => exact .inl rfl
  | cons x texts => exact .inr rfl

theorem bare_of_notMem {s : List Char} (slashless : '/' ∉ s) : Bare s :=
  ⟨fun first => slashless (List.mem_of_head? first), fun last => slashless (List.mem_of_getLast? last)⟩

/-- Texts that are put for characters keep the ends free of slashes. -/
theorem Bare.flatMap {s : List Char} (bare : Bare s) {f : Char → List Char} (present : ∀ c, f c ≠ [])
    (slash : ∀ c, '/' ∈ f c → c = '/') : Bare (s.flatMap f) := by
  constructor
  · intro first
    cases s with
    | nil => cases first
    | cons c s =>
      rw [List.flatMap_cons, List.head?_append_of_ne_nil _ (present c)] at first
      exact bare.1 (by rw [slash c (List.mem_of_head? first)]; rfl)
  · intro last
    rcases List.eq_nil_or_concat s with rfl | ⟨s, c, rfl⟩
    · cases last
    · rw [List.concat_eq_append, List.flatMap_append, List.flatMap_singleton,
        List.getLast?_append_of_ne_nil _ (present c)] at last
      apply bare.2
      rw [slash c (List.mem_of_getLast? last)]
      simp

theorem flatMap_ne_nil {s : List Char} (nonempty : s ≠ []) {f : Char → List Char}
    (present : ∀ c, f c ≠ []) : s.flatMap f ≠ [] := by
  obtain ⟨c, s, rfl⟩ := List.exists_cons_of_ne_nil nonempty
  simp [present c]

/-- Texts that are there and have no slashes at their ends make a path that has none at its own. -/
theorem canonical_path {texts : List (List Char)} (nonempty : texts ≠ [])
    (good : ∀ x ∈ texts, x ≠ [] ∧ Bare x) : ∃ s, path texts = '/' :: s ∧ s ≠ [] ∧ Bare s := by
  induction texts with
  | nil => exact absurd rfl nonempty
  | cons x texts ih =>
    obtain ⟨present, bare⟩ := good x List.mem_cons_self
    refine ⟨x ++ path texts, path_cons x texts, by simp [present], ?_⟩
    by_cases last : texts = []
    · rw [last, path, List.flatMap_nil, List.append_nil]
      exact bare
    · obtain ⟨s, same, some, rest⟩ := ih last fun y member => good y (List.mem_cons_of_mem x member)
      have joined := bare.append rest present some ['/']
      rwa [List.append_assoc, List.singleton_append, ← same] at joined

/-- Behind its first slash a path begins and ends as the texts do without slashes between them. -/
theorem exists_path_ends {texts : List (List Char)} (nonempty : texts ≠ []) (present : ∀ x ∈ texts, x ≠ []) :
    ∃ s, path texts = '/' :: s ∧ s ≠ [] ∧ s.head? = texts.flatten.head? ∧
      s.getLast? = texts.flatten.getLast? := by
  induction texts with
  | nil => exact absurd rfl nonempty
  | cons x texts ih =>
    have first := present x List.mem_cons_self
    refine ⟨x ++ path texts, path_cons x texts, List.append_ne_nil_of_left_ne_nil first _, ?_, ?_⟩
    · rw [List.flatten_cons, List.head?_append_of_ne_nil x first, List.head?_append_of_ne_nil x first]
    · by_cases last : texts = []
      · rw [last]
        rfl
      · obtain ⟨s, same, some, _, ends⟩ := ih last fun y member => present y (List.mem_cons_of_mem x member)
        have more : texts.flatten ≠ [] := by
          intro none
          rw [none] at ends
          exact some (List.getLast?_eq_none_iff.1 ends)
        rw [List.flatten_cons, List.getLast?_append_of_ne_nil x more, same,
          List.getLast?_append_of_ne_nil x (List.cons_ne_nil _ _), List.getLast?_cons_of_ne_nil some, ends]

theorem getLast?_path {texts : List (List Char)} (good : ∀ x ∈ texts, x ≠ [] ∧ Bare x) :
    (path texts).getLast? ≠ some '/' := by
  by_cases missing : texts = []
  · rw [missing]
    exact nofun
  · obtain ⟨s, same, present, bare⟩ := canonical_path missing good
    rw [same, List.getLast?_cons_of_ne_nil present]
    exact bare.2

theorem unmarked_path {texts : List (List Char)} (good : ∀ x ∈ texts, Unmarked x) :
    Unmarked (path texts) := by
  induction texts with
  | nil => decide
  | cons x texts ih =>
    rw [path_cons]
    have first : Unmarked ['/'] := by decide
    exact first.append ((good x List.mem_cons_self).append
      (ih fun y member => good y (List.mem_cons_of_mem x member)))

theorem stops_of_boundary {s : List Char} (boundary : s = [] ∨ s.head? = some '/') : Stops (· != '/') s := by
  rcases boundary with rfl | slash
  · exact stops_nil _
  · intro c first
    obtain rfl := Option.some.inj (slash.symm.trans first)
    rfl

/-- Where the first slash stands is seen in the text. -/
theorem append_inj_of_notMem {x y s t : List Char} (free : '/' ∉ x) (free' : '/' ∉ y)
    (boundary : s = [] ∨ s.head? = some '/') (boundary' : t = [] ∨ t.head? = some '/')
    (same : x ++ s = y ++ t) : x = y ∧ s = t := by
  have inside {x : List Char} (free : '/' ∉ x) : ∀ c ∈ x, (c != '/') = true :=
    fun c member => bne_iff_ne.2 (ne_of_mem_of_not_mem member free)
  exact (stops_of_boundary boundary).append_inj (stops_of_boundary boundary') (inside free) (inside free') same

/-- Where the last slash stands is seen in the text. -/
theorem append_cons_inj_of_notMem {s t x y : List Char} (free : '/' ∉ x) (free' : '/' ∉ y)
    (same : s ++ '/' :: x = t ++ '/' :: y) : s = t ∧ x = y := by
  have backwards := congrArg List.reverse same
  simp only [List.reverse_append, List.reverse_cons, List.append_assoc, List.singleton_append] at backwards
  obtain ⟨last, rest⟩ := append_inj_of_notMem (by simpa using free) (by simpa using free')
    (.inr rfl) (.inr rfl) backwards
  exact ⟨List.reverse_inj.1 (List.cons.inj rest).2, List.reverse_inj.1 last⟩

/-- Texts without slashes at the end of a path, and what stands before them. -/
theorem append_path_inj {w v : List Char} {texts others : List (List Char)}
    (count : texts.length = others.length) (free : ∀ x ∈ texts, '/' ∉ x)
    (free' : ∀ x ∈ others, '/' ∉ x) (same : w ++ path texts = v ++ path others) :
    w = v ∧ texts = others := by
  induction texts using List.reverseRecOn generalizing others with
  | nil =>
    obtain rfl := List.eq_nil_of_length_eq_zero count.symm
    exact ⟨by simpa [path] using same, rfl⟩
  | append_singleton xs x ih =>
    rcases List.eq_nil_or_concat others with rfl | ⟨ys, y, rfl⟩
    · simp at count
    · simp only [List.concat_eq_append, path_append, path_singleton, ← List.append_assoc] at same free' ⊢
      obtain ⟨rest, last⟩ := append_cons_inj_of_notMem (free x (by simp)) (free' y (by simp)) same
      have fewer : xs.length = ys.length := by simpa using count
      obtain ⟨front, middle⟩ := ih fewer (fun z member => free z (List.mem_append_left _ member))
        (fun z member => free' z (List.mem_append_left _ member)) rest
      exact ⟨front, by rw [middle, last]⟩

theorem length_le_count_path (texts : List (List Char)) : texts.length ≤ (path texts).count '/' := by
  induction texts with
  | nil => simp
  | cons x texts ih =>
    rw [path_cons, List.count_cons_self, List.count_append, List.length_cons]
    omega

theorem count_path {texts : List (List Char)} (free : ∀ x ∈ texts, '/' ∉ x) :
    (path texts).count '/' = texts.length := by
  induction texts with
  | nil => rfl
  | cons x texts ih =>
    rw [path_cons, List.count_cons_self, List.count_append, List.count_eq_zero.2 (free x List.mem_cons_self),
      ih fun y member => free y (List.mem_cons_of_mem x member), List.length_cons, Nat.zero_add]

end UrlRouting.Slash
