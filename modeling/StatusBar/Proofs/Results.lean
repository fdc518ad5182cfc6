import Mathlib.Data.List.Forall2
import StatusBar.Error

/-!
# Results of computations that may fail

When a computation that is put together from others has a result, and which.
-/

namespace StatusBar

variable {ε ε' α β : Type} {x : Except ε α} {a : α} {b : β}

/-- What follows a step that may fail has a result only if the step has one. -/
theorem bind_eq_ok_iff {f : α → Except ε β} :
    x >>= f = .ok b ↔ ∃ a, x = .ok a ∧ f a = .ok b := by
  cases x <;> simp [bind, Except.bind]

theorem mapError_eq_ok_iff {f : ε → ε'} : x.mapError f = .ok a ↔ x = .ok a := by
  cases x <;> simp [Except.mapError]

theorem ok_of_liftM {x : Except ConfigError α} (h : (liftM x : Except ModuleError α) = .ok a) :
    x = .ok a :=
  mapError_eq_ok_iff.mp h

/-- A list of computations has the results of its members, in order. -/
theorem mapM_eq_ok_iff {f : α → Except ε β} {xs : List α} {ys : List β} :
    xs.mapM f = .ok ys ↔ List.Forall₂ (fun x y => f x = .ok y) xs ys := by
  induction xs generalizing ys with
  | nil => cases ys <;> simp [pure, Except.pure]
  | cons x xs ih =>
    rw [List.mapM_cons, List.forall₂_cons_left_iff]
    simp only [bind_eq_ok_iff, ih, pure, Except.pure, Except.ok.injEq]
    grind

end StatusBar
