import Mathlib.Data.List.Basic
import UrlRouting.Text.Slash

/-! Texts between slashes. A text is bare if it has no slash at either end; every text is a bare
one between two runs of slashes, and `trim` finds it. -/

namespace UrlRouting.Slash

/-- No slash at either end. -/
def Bare (s : List Char) : Prop := s.head? ≠ some '/' ∧ s.getLast? ≠ some '/'

instance (s : List Char) : Decidable (Bare s) := inferInstanceAs (Decidable (_ ∧ _))

/-- A run of slashes. -/
def run (n : Nat) : List Char := List.replicate n '/'

theorem run_append_run (a b : Nat) : run a ++ run b = run (a + b) := List.replicate_append_replicate

theorem run_append (a b : Nat) (s : List Char) : run a ++ (run b ++ s) = run (a + b) ++ s := by
  rw [← List.append_assoc, run_append_run]

theorem mem_run {n : Nat} {c : Char} (member : c ∈ run n) : c = '/' := List.eq_of_mem_replicate member

theorem bare_nil : Bare [] := by simp [Bare]

theorem Bare.append {s t : List Char} (left : Bare s) (right : Bare t) (started : s ≠ [])
    (ended : t ≠ []) (middle : List Char) : Bare (s ++ middle ++ t) := by
  refine ⟨?_, ?_⟩
  · rw [List.append_assoc, List.head?_append_of_ne_nil s started]
    exact left.1
  · rw [List.getLast?_append_of_ne_nil _ ended]
    exact right.2

theorem dropWhile_run_append (n : Nat) {s : List Char} (head : s.head? ≠ some '/') :
    (run n ++ s).dropWhile (· == '/') = s := by
  rw [List.dropWhile_append_of_pos (fun c member => by simp [mem_run member])]
  exact List.dropWhile_beq_eq_self_of_head?_ne head

theorem reverse_run (n : Nat) : (run n).reverse = run n := List.reverse_replicate

theorem trim_eq_of_bare {s : List Char} (bare : Bare s) (a b : Nat) :
    trim (run a ++ s ++ run b) = s := by
  by_cases missing : s = []
  · subst missing
    have front := dropWhile_run_append (a + b) bare_nil.1
    rw [List.append_nil] at front
    rw [List.append_nil, run_append_run, trim, front]
    rfl
  · have front : (run a ++ s ++ run b).dropWhile (· == '/') = s ++ run b := by
      rw [List.append_assoc]
      apply dropWhile_run_append
      rw [List.head?_append_of_ne_nil s missing]
      exact bare.1
    have back : (run b ++ s.reverse).dropWhile (· == '/') = s.reverse :=
      dropWhile_run_append b (by rw [List.head?_reverse]; exact bare.2)
    rw [trim, front, List.reverse_append, reverse_run, back, List.reverse_reverse]

theorem exists_run_append (s : List Char) : ∃ n rest, s = run n ++ rest ∧ rest.head? ≠ some '/' := by
  induction s with
  | nil => exact ⟨0, [], rfl, by simp⟩
  | cons c rest ih =>
    by_cases slash : c = '/'
    · obtain ⟨n, tail, same, head⟩ := ih
      exact ⟨n + 1, tail, by rw [slash, same]; rfl, head⟩
    · exact ⟨0, c :: rest, rfl, by simpa using slash⟩

theorem exists_bare (s : List Char) : ∃ a core b, s = run a ++ core ++ run b ∧ Bare core := by
  obtain ⟨a, rest, front, head⟩ := exists_run_append s
  obtain ⟨b, tail, back, last⟩ := exists_run_append rest.reverse
  have split : rest = tail.reverse ++ run b := by
    rw [← reverse_run b, ← List.reverse_append, ← back, List.reverse_reverse]
  refine ⟨a, tail.reverse, b, by rw [front, split, List.append_assoc], ?_, ?_⟩
  · by_cases missing : tail.reverse = []
    · simp [missing]
    · rw [split, List.head?_append_of_ne_nil _ missing] at head
      exact head
  · rw [List.getLast?_reverse]
    exact last

/-- Trimming leaves out a run of slashes at each end and no more. -/
theorem exists_trim (s : List Char) : ∃ a b, s = run a ++ trim s ++ run b ∧ Bare (trim s) := by
  obtain ⟨a, core, b, same, bare⟩ := exists_bare s
  have core_eq : trim s = core := by rw [same]; exact trim_eq_of_bare bare a b
  exact ⟨a, b, core_eq ▸ same, core_eq ▸ bare⟩

theorem bare_trim (s : List Char) : Bare (trim s) := by
  obtain ⟨_, _, _, bare⟩ := exists_trim s
  exact bare

theorem trim_of_bare {s : List Char} (bare : Bare s) : trim s = s := by
  simpa [run] using trim_eq_of_bare bare 0 0

theorem trim_run_append (n : Nat) (s : List Char) : trim (run n ++ s) = trim s := by
  obtain ⟨a, b, same, bare⟩ := exists_trim s
  have joined : run n ++ s = run (n + a) ++ trim s ++ run b := by
    conv_lhs => rw [same]
    simp only [List.append_assoc, run_append]
  rw [joined, trim_eq_of_bare bare]

theorem trim_between_runs (a b : Nat) (s : List Char) : trim (run a ++ s ++ run b) = trim s := by
  obtain ⟨c, d, same, bare⟩ := exists_trim s
  have joined : run a ++ s ++ run b = run (a + c) ++ trim s ++ run (d + b) := by
    conv_lhs => rw [same]
    simp only [List.append_assoc, run_append, run_append_run]
  rw [joined, trim_eq_of_bare bare]

theorem trim_append_of_trim_eq_nil {s : List Char} (slashes : trim s = []) (rest : List Char) :
    trim (s ++ rest) = trim rest := by
  obtain ⟨a, b, same, _⟩ := exists_trim s
  rw [same, slashes, List.append_nil, List.append_assoc, trim_run_append, trim_run_append]

/-- The text after a first one is cut off it where a slash stands, and only loses slashes at its
ends. -/
theorem trim_append {s rest : List Char} (present : trim s ≠ []) (opened : rest.head? = some '/') :
    ∃ after, trim (s ++ rest) = trim s ++ after ∧ (after = [] ∨ after.head? = some '/') ∧
      trim after = trim rest := by
  obtain ⟨a, b, left, left_bare⟩ := exists_trim s
  obtain ⟨c, d, right, right_bare⟩ := exists_trim rest
  by_cases missing : trim rest = []
  · refine ⟨[], ?_, .inl rfl, missing.symm ▸ rfl⟩
    have joined : s ++ rest = run a ++ trim s ++ (run b ++ (run c ++ run d)) := by
      conv_lhs => rw [left, right, missing]
      simp only [List.append_assoc, List.nil_append]
    rw [joined, run_append, run_append_run, trim_eq_of_bare left_bare, List.append_nil]
  · have slash : 0 < c := by
      by_contra none
      have zero : c = 0 := by omega
      rw [right, zero, List.append_assoc, run, List.replicate_zero, List.nil_append,
        List.head?_append_of_ne_nil _ missing] at opened
      exact right_bare.1 opened
    refine ⟨run (b + c) ++ trim rest, ?_, .inr ?_, ?_⟩
    · have joined : s ++ rest = run a ++ (trim s ++ run (b + c) ++ trim rest) ++ run d := by
        conv_lhs => rw [left, right]
        simp only [List.append_assoc, run_append]
      rw [joined, trim_eq_of_bare (left_bare.append right_bare present missing _), List.append_assoc]
    · obtain ⟨n, count⟩ : ∃ n, b + c = n + 1 := ⟨b + c - 1, by omega⟩
      rw [count]
      rfl
    · rw [trim_run_append, trim_of_bare right_bare]

theorem mem_of_mem_trim {s : List Char} {c : Char} (member : c ∈ trim s) : c ∈ s := by
  obtain ⟨a, b, same, _⟩ := exists_trim s
  rw [same]
  exact List.mem_append_left _ (List.mem_append_right _ member)

/-- A path by itself: a slash, and a text without slashes at its ends. -/
def Canonical (path : List Char) : Prop := ∃ s, path = '/' :: s ∧ Bare s

theorem Canonical.head? {path : List Char} (canonical : Canonical path) : path.head? = some '/' := by
  obtain ⟨s, rfl, _⟩ := canonical
  rfl

theorem canonical_rooted (s : List Char) : Canonical (rooted s) := ⟨trim s, rfl, bare_trim s⟩

theorem Canonical.ending {path : List Char} (canonical : Canonical path) :
    path = ['/'] ∨ path.getLast? ≠ some '/' := by
  obtain ⟨s, rfl, bare⟩ := canonical
  by_cases empty : s = []
  · exact .inl (congrArg _ empty)
  · right
    rw [List.getLast?_cons_of_ne_nil empty]
    exact bare.2

/-- A text behind a slash that does not end in one is a path by itself if no other slash begins it. -/
theorem canonical_iff_of_ending {path : List Char} (slash : path.head? = some '/')
    (ending : path.getLast? ≠ some '/') : Canonical path ↔ ¬['/', '/'] <+: path := by
  obtain ⟨s, rfl⟩ : ∃ s, path = '/' :: s := by
    cases path with
    | nil => cases slash
    | cons c s => exact ⟨s, congrArg (· :: s) (Option.some.inj slash)⟩
  have present : s ≠ [] := by
    rintro rfl
    exact ending rfl
  rw [List.getLast?_cons_of_ne_nil present] at ending
  have second : ['/', '/'] <+: '/' :: s ↔ s.head? = some '/' := by
    cases s with
    | nil => exact absurd rfl present
    | cons c s => simp [List.cons_prefix_cons, eq_comm]
  rw [second]
  constructor
  · rintro ⟨_, same, bare⟩
    obtain rfl := (List.cons.inj same).2
    exact bare.1
  · exact fun first => ⟨s, rfl, first, ending⟩

/-- A text that begins neither a query nor a fragment. -/
def Unmarked (s : List Char) : Prop := '?' ∉ s ∧ '#' ∉ s

instance (s : List Char) : Decidable (Unmarked s) := inferInstanceAs (Decidable (_ ∧ _))

theorem Unmarked.append {s t : List Char} (left : Unmarked s) (right : Unmarked t) :
    Unmarked (s ++ t) := by
  simp only [Unmarked, List.mem_append, not_or]
  exact ⟨⟨left.1, right.1⟩, left.2, right.2⟩

end UrlRouting.Slash
