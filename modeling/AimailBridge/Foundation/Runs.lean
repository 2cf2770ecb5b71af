import Mathlib

/-!
# Runs of a deterministic system

A run folds a step function over a list of actions.  A property holds throughout a run when it holds
after every prefix; a run is guarded when each of its steps meets a condition in the state before
it.  When an invariant tells which steps keep the property, the two come to the same.
-/

namespace Foundation

variable {σ α : Type*} (step : σ → α → σ)

/-- The property holds in every state of the run. -/
def Throughout (property : σ → Prop) (state : σ) (run : List α) : Prop :=
  ∀ before, before <+: run → property (before.foldl step state)

/-- Every step of the run meets `guard` in the state before it. -/
def Guarded (guard : σ → α → Prop) : σ → List α → Prop
  | _, [] => True
  | state, action :: run => guard state action ∧ Guarded guard (step state action) run

variable {step}

theorem throughout_nil {property : σ → Prop} {state : σ} :
    Throughout step property state [] ↔ property state := by
  constructor
  · exact fun throughout => throughout [] (List.prefix_refl [])
  · intro holds before front
    obtain rfl := List.prefix_nil.mp front
    exact holds

theorem throughout_cons {property : σ → Prop} {state : σ} {action : α} {run : List α} :
    Throughout step property state (action :: run) ↔
      property state ∧ Throughout step property (step state action) run := by
  constructor
  · intro throughout
    refine ⟨throughout [] (List.nil_prefix), fun before front => ?_⟩
    exact throughout (action :: before) (List.cons_prefix_cons.mpr ⟨rfl, front⟩)
  · rintro ⟨holds, throughout⟩ before front
    cases before with
    | nil => exact holds
    | cons first before =>
        obtain ⟨rfl, shorter⟩ := List.cons_prefix_cons.mp front
        exact throughout before shorter

/-- An invariant that guarded steps keep, and without which the property fails at once, makes the
guard the exact condition for the property. -/
theorem throughout_iff_guarded {invariant property : σ → Prop} {guard : σ → α → Prop}
    (implies : ∀ state, invariant state → property state)
    (keeps : ∀ state action, invariant state → guard state action → invariant (step state action))
    (needs : ∀ state action, invariant state → property (step state action) → guard state action)
    {state : σ} (start : invariant state) (run : List α) :
    Throughout step property state run ↔ Guarded step guard state run := by
  induction run generalizing state with
  | nil => exact iff_of_true (throughout_nil.mpr (implies state start)) trivial
  | cons action run induction =>
      rw [throughout_cons, Guarded]
      constructor
      · rintro ⟨_, throughout⟩
        have guarded := needs state action start (throughout [] List.nil_prefix)
        exact ⟨guarded, (induction (keeps state action start guarded)).mp throughout⟩
      · rintro ⟨guarded, later⟩
        exact ⟨implies state start, (induction (keeps state action start guarded)).mpr later⟩

end Foundation
