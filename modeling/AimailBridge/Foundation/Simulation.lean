import Mathlib

/-!
# Simulations

A run of one system is read as a run of another when each of its steps stands for some steps of the
other, perhaps for none, and the states stay related.  What holds of all runs of the other system
then holds of what the runs of the first one are related to.
-/

namespace Foundation

variable {σ τ α β : Type*}

/-- The run that a run stands for. -/
def reading (step : σ → α → σ) (stands : σ → α → List β) : σ → List α → List β
  | _, [] => []
  | state, action :: run => stands state action ++ reading step stands (step state action) run

/-- Related states stay related when each step is followed by the steps that it stands for. -/
theorem related_run {step : σ → α → σ} {stands : σ → α → List β} {other : τ → β → τ}
    (related : σ → τ → Prop)
    (simulates : ∀ state image action, related state image →
      related (step state action) ((stands state action).foldl other image))
    {state : σ} {image : τ} (start : related state image) (run : List α) :
    related (run.foldl step state) ((reading step stands state run).foldl other image) := by
  induction run generalizing state image with
  | nil => exact start
  | cons action run induction =>
      rw [reading, List.foldl_append]
      exact induction (simulates state image action start)

/-- A run stands for what its actions stand for one by one, when that does not depend on the state
in some regard. -/
theorem map_reading {γ : Type*} {step : σ → α → σ} {stands : σ → α → List β} {regard : β → γ}
    {alone : α → List γ} (same : ∀ state action, (stands state action).map regard = alone action)
    (state : σ) (run : List α) :
    (reading step stands state run).map regard = run.flatMap alone := by
  induction run generalizing state with
  | nil => rfl
  | cons action run induction =>
      rw [reading, List.map_append, same, induction, List.flatMap_cons]

end Foundation
