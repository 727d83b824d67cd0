import Mathlib.Data.List.Forall2

/-! Going through a list with a step that may fail: the whole succeeds just where every step does. -/

namespace UrlRouting

/-- Two steps, one after the other, succeed only where each of them does. -/
class Stepwise (m : Type → Type) [Monad m] : Prop where
  pure_injective {α : Type} {a b : α} (same : (pure a : m α) = pure b) : a = b
  of_bind_eq_pure {α β : Type} {first : m α} {next : α → m β} {b : β} (done : first >>= next = pure b) :
    ∃ a, first = pure a ∧ next a = pure b

instance : Stepwise Option where
  pure_injective := Option.some.inj
  of_bind_eq_pure := Option.bind_eq_some_iff.1

instance {ε : Type} : Stepwise (Except ε) where
  pure_injective same := Except.ok.inj same
  of_bind_eq_pure {_ _ first _ _} done := by
    cases first with
    | error => cases done
    | ok a => exact ⟨a, rfl, done⟩

variable {m : Type → Type} [Monad m] [LawfulMonad m] {α β γ : Type}

theorem mapM_of_forall₂ {f : α → m β} {xs : List α} {ys : List β}
    (each : List.Forall₂ (fun x y => f x = pure y) xs ys) : xs.mapM f = pure ys := by
  induction each with
  | nil => rw [List.mapM_nil]
  | cons first _ ih => rw [List.mapM_cons, first, pure_bind, ih, pure_bind]

theorem forall₂_of_mapM [Stepwise m] {f : α → m β} {xs : List α} {ys : List β}
    (mapped : xs.mapM f = pure ys) : List.Forall₂ (fun x y => f x = pure y) xs ys := by
  induction xs generalizing ys with
  | nil =>
    rw [List.mapM_nil] at mapped
    obtain rfl := Stepwise.pure_injective mapped
    exact .nil
  | cons x xs ih =>
    rw [List.mapM_cons] at mapped
    obtain ⟨y, first, mapped⟩ := Stepwise.of_bind_eq_pure mapped
    obtain ⟨zs, rest, mapped⟩ := Stepwise.of_bind_eq_pure mapped
    obtain rfl := Stepwise.pure_injective mapped
    exact .cons first (ih rest)

theorem forall₂_map_map {R : β → γ → Prop} {f : α → β} {g : α → γ} (each : ∀ x, R (f x) (g x))
    (xs : List α) : List.Forall₂ R (xs.map f) (xs.map g) := by
  rw [List.forall₂_map_left_iff, List.forall₂_map_right_iff, List.forall₂_same]
  exact fun x _ => each x

theorem mapM_map_eq_pure {read : β → m γ} {write : α → β} {kept : α → γ}
    (each : ∀ x, read (write x) = pure (kept x)) (xs : List α) :
    (xs.map write).mapM read = pure (xs.map kept) :=
  mapM_of_forall₂ (forall₂_map_map (R := fun x y => read x = pure y) each xs)

end UrlRouting
