import UrlRouting.Proofs.Pattern.Read
import UrlRouting.Proofs.Text.Slash

/-! The normalized text of a pattern says what it is read as: slashes at the ends of a pattern add
empty pieces only, and these are left out. -/

namespace UrlRouting

namespace Slash

/-- The pieces that are not empty. -/
def filled (s : List Char) : List (List Char) := (pieces s).filter (!·.isEmpty)

theorem filled_run_append (n : Nat) (s : List Char) : filled (run n ++ s) = filled s := by
  induction n with
  | zero => rfl
  | succ n ih =>
    have first : run (n + 1) ++ s = '/' :: (run n ++ s) := rfl
    rw [first, filled, pieces_slash_cons, List.filter_cons_of_neg (by simp)]
    exact ih

theorem filled_append_run (s : List Char) (n : Nat) : filled (s ++ run n) = filled s := by
  induction n with
  | zero => rw [run, List.replicate_zero, List.append_nil]
  | succ n ih =>
    have last : s ++ run (n + 1) = s ++ run n ++ ['/'] := by
      rw [run, List.replicate_succ', ← List.append_assoc]
      rfl
    rw [last, filled, pieces_append_slash, List.filter_append, List.filter_cons_of_neg (by simp),
      List.filter_nil, List.append_nil]
    exact ih

theorem filled_trim (s : List Char) : filled (trim s) = filled s := by
  obtain ⟨a, b, same, _⟩ := exists_trim s
  conv_rhs => rw [same, filled_append_run, filled_run_append]

end Slash

namespace Pattern

theorem eq_of_normalize_eq {p q : String} {segments others : List Segment} (read_p : read p = .ok segments)
    (read_q : read q = .ok others) (same : normalize p = normalize q) : segments = others := by
  have trimmed : Slash.trim p.toList = Slash.trim q.toList :=
    (List.cons.inj (String.ofList_injective same)).2
  have pieces : Slash.filled p.toList = Slash.filled q.toList := by
    rw [← Slash.filled_trim, trimmed, Slash.filled_trim]
  have texts : readSegments p.toList = readSegments q.toList := by
    rw [Slash.filled, Slash.filled] at pieces
    rw [readSegments, readSegments, pieces]
  rw [readSegments_of_read read_p, readSegments_of_read read_q] at texts
  exact Except.ok.inj texts

end Pattern

end UrlRouting
