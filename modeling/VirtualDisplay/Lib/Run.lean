import Mathlib

/-!
# Conditions on the steps of a run

A run of a deterministic system is a fold of its step function over a list of inputs.  `Run.Every`
says that each input of a run meets a condition that may also look at the state it is applied in;
`Run.every_concat` takes a run apart at its last step, which is how a statement about every moment
of a run is proved.
-/

set_option autoImplicit false

namespace Run

variable {σ α : Type} {step : σ → α → σ} {ok : σ → α → Prop}

/-- Every input of the run meets the condition in the state it is applied in. -/
def Every (step : σ → α → σ) (ok : σ → α → Prop) : σ → List α → Prop
  | _, [] => True
  | s, a :: l => ok s a ∧ Every step ok (step s a) l

theorem every_append {s : σ} {l₁ l₂ : List α} :
    Every step ok s (l₁ ++ l₂) ↔ Every step ok s l₁ ∧ Every step ok (l₁.foldl step s) l₂ := by
  induction l₁ generalizing s with
  | nil => simp [Every]
  | cons a l₁ ih => rw [List.cons_append, Every, Every, ih, List.foldl_cons, and_assoc]

theorem every_concat {s : σ} {l : List α} {a : α} :
    Every step ok s (l ++ [a]) ↔ Every step ok s l ∧ ok (l.foldl step s) a := by
  rw [every_append, Every, Every, and_true]

end Run
