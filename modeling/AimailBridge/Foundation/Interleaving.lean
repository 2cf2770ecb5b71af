import Mathlib

/-!
# Interleaved sequential programs

Any number of threads runs over one shared state.  A thread is a program point together with its
local values; a schedule starts threads and advances them one atomic step at a time.  The rule
`Program.Keeps.run` reduces an invariant of all guarded runs to one case for each step of one
thread, with the other threads left where they are.
-/

namespace Foundation

/-- A program over shared states `σ`, with program points `ℓ`. -/
structure Program (σ ℓ : Type*) where
  /-- Program points at which an operation begins. -/
  entry : ℓ → Bool
  /-- One atomic step: `none` when the thread is blocked, and no continuation when it returns. -/
  step : σ → ℓ → Option (σ × Option ℓ)

/-- A shared state with the threads that are in the middle of an operation. -/
structure Pool (σ ℓ : Type*) where
  /-- The state all threads act on. -/
  shared : σ
  /-- The operations in progress. -/
  threads : List ℓ
  deriving DecidableEq

/-- One choice of the scheduler. -/
inductive Action (ℓ : Type*)
  /-- Begin an operation. -/
  | start (point : ℓ)
  /-- Let the operation at this index take its next step. -/
  | advance (index : Nat)
  deriving DecidableEq

namespace Pool

variable {σ ℓ : Type*}

/-- The operations in progress besides the one at `index`. -/
def others (pool : Pool σ ℓ) (index : Nat) : List ℓ :=
  pool.threads.eraseIdx index

/-- No operation is in progress. -/
def Quiescent (pool : Pool σ ℓ) : Prop :=
  pool.threads = []

instance (pool : Pool σ ℓ) : Decidable pool.Quiescent :=
  match decided : pool.threads with
  | [] => isTrue decided
  | _ :: _ => isFalse fun empty => by simp [Quiescent, decided] at empty

end Pool

namespace Program

variable {σ ℓ : Type*} (program : Program σ ℓ)

/-- The pool after one choice of the scheduler, if that choice is possible. -/
def next (pool : Pool σ ℓ) : Action ℓ → Option (Pool σ ℓ)
  | .start point =>
      if program.entry point then
        some { pool with threads := pool.threads ++ [point] }
      else
        none
  | .advance index =>
      pool.threads[index]?.bind fun point =>
        (program.step pool.shared point).map fun (shared, continuation) =>
          match continuation with
          | some point' => { shared, threads := pool.threads.set index point' }
          | none => { shared, threads := pool.others index }

/-- Execute a schedule. -/
def run : List (Action ℓ) → Pool σ ℓ → Option (Pool σ ℓ)
  | [], pool => some pool
  | action :: schedule, pool => program.next pool action >>= run schedule

/-- Every choice of the schedule meets `guard` in the pool in which it is made. -/
def Obeys (guard : Pool σ ℓ → Action ℓ → Prop) : List (Action ℓ) → Pool σ ℓ → Prop
  | [], _ => True
  | action :: schedule, pool =>
      guard pool action ∧
        ∀ after, program.next pool action = some after → Obeys guard schedule after

/-- Execute one operation to its end with no other thread in between. -/
def alone : Nat → σ → ℓ → Option σ
  | 0, _, _ => none
  | fuel + 1, shared, point =>
      (program.step shared point).bind fun (shared, continuation) =>
        match continuation with
        | some point' => alone fuel shared point'
        | none => some shared

theorem next_start {pool after : Pool σ ℓ} {point : ℓ} :
    program.next pool (.start point) = some after ↔
      program.entry point = true ∧ after = { pool with threads := pool.threads ++ [point] } := by
  rw [next, Option.ite_none_right_eq_some, Option.some.injEq, eq_comm (b := after)]

theorem obeys_cons {guard : Pool σ ℓ → Action ℓ → Prop} {action : Action ℓ}
    {schedule : List (Action ℓ)} {pool after : Pool σ ℓ}
    (taken : program.next pool action = some after) (guarded : guard pool action)
    (later : program.Obeys guard schedule after) :
    program.Obeys guard (action :: schedule) pool := by
  refine ⟨guarded, fun after' taken' => ?_⟩
  obtain rfl : after = after' := Option.some.inj (taken.symm.trans taken')
  exact later

theorem obeys_of_forall {guard : Pool σ ℓ → Action ℓ → Prop} {schedule : List (Action ℓ)}
    (always : ∀ pool, ∀ action ∈ schedule, guard pool action) (pool : Pool σ ℓ) :
    program.Obeys guard schedule pool := by
  induction schedule generalizing pool with
  | nil => trivial
  | cons action schedule induction =>
      refine ⟨always pool action List.mem_cons_self, fun after _ => ?_⟩
      exact induction (fun pool other member => always pool other (List.mem_cons_of_mem _ member))
        after

theorem obeys_and (guard' : Pool σ ℓ → Action ℓ → Prop) {guard : Pool σ ℓ → Action ℓ → Prop}
    {schedule : List (Action ℓ)} {pool : Pool σ ℓ} (obeys : program.Obeys guard schedule pool)
    (always : ∀ pool, ∀ action ∈ schedule, guard' pool action) :
    program.Obeys (fun pool action => guard pool action ∧ guard' pool action) schedule pool := by
  induction schedule generalizing pool with
  | nil => trivial
  | cons action schedule induction =>
      refine ⟨⟨obeys.1, always pool action List.mem_cons_self⟩, fun after taken => ?_⟩
      exact induction (obeys.2 after taken) fun pool other member =>
        always pool other (List.mem_cons_of_mem action member)

/-- What advancing one thread does: it takes its step, and moves on or returns while the other
threads stay where they are. -/
theorem next_advance {pool after : Pool σ ℓ} {index : Nat}
    (taken : program.next pool (.advance index) = some after) :
    ∃ point shared continuation, program.step pool.shared point = some (shared, continuation) ∧
      pool.threads.Perm (point :: pool.others index) ∧ after.shared = shared ∧
      after.threads.Perm (continuation.toList ++ pool.others index) ∧
      pool.threads[index]? = some point := by
  simp only [next, Option.bind_eq_some_iff, Option.map_eq_some_iff, Prod.exists] at taken
  obtain ⟨point, found, shared, continuation, stepped, rfl⟩ := taken
  obtain ⟨bound, value⟩ := List.getElem?_eq_some_iff.mp found
  refine ⟨point, shared, continuation, stepped, ?_, ?_⟩
  · exact value ▸ (List.getElem_cons_eraseIdx_perm bound).symm
  · cases continuation with
    | none => exact ⟨rfl, List.Perm.refl _, found⟩
    | some point' => exact ⟨rfl, List.set_perm_cons_eraseIdx bound point', found⟩

/-- An invariant of every guarded step holds at the end of every guarded run. -/
theorem run_invariant (invariant : Pool σ ℓ → Prop) {guard : Pool σ ℓ → Action ℓ → Prop}
    (preserved : ∀ pool action after, guard pool action → program.next pool action = some after →
      invariant pool → invariant after)
    {schedule : List (Action ℓ)} {initial final : Pool σ ℓ}
    (obeys : program.Obeys guard schedule initial)
    (execution : program.run schedule initial = some final) (start : invariant initial) :
    invariant final := by
  induction schedule generalizing initial with
  | nil =>
      obtain rfl := Option.some.inj execution
      exact start
  | cons action schedule induction =>
      simp only [run, Option.bind_eq_bind, Option.bind_eq_some_iff] at execution
      obtain ⟨after, taken, execution⟩ := execution
      exact induction (obeys.2 after taken) execution
        (preserved initial action after obeys.1 taken start)

/-- When the guard is what a step needs to keep a property, given an invariant of all steps, the
property holds at the end of a run exactly when the whole run is guarded. -/
theorem run_iff_obeys {invariant property : Pool σ ℓ → Prop} {guard : Pool σ ℓ → Action ℓ → Prop}
    (preserved : ∀ pool action after, program.next pool action = some after → invariant pool →
      invariant after)
    (exact_guard : ∀ pool action after, program.next pool action = some after → invariant pool →
      (property after ↔ property pool ∧ guard pool action))
    {schedule : List (Action ℓ)} {initial final : Pool σ ℓ}
    (execution : program.run schedule initial = some final) (start : invariant initial) :
    property final ↔ property initial ∧ program.Obeys guard schedule initial := by
  induction schedule generalizing initial with
  | nil =>
      obtain rfl := Option.some.inj execution
      simp [Obeys]
  | cons action schedule induction =>
      simp only [run, Option.bind_eq_bind, Option.bind_eq_some_iff] at execution
      obtain ⟨after, taken, execution⟩ := execution
      rw [induction execution (preserved initial action after taken start),
        exact_guard initial action after taken start, Obeys, and_assoc]
      refine and_congr_right fun _ => and_congr_right fun _ => ?_
      constructor
      · intro obeys after' taken'
        obtain rfl : after = after' := Option.some.inj (taken.symm.trans taken')
        exact obeys
      · exact fun obeys => obeys after taken

/-- A property of the shared state and of the threads, in any order, that starting an operation
keeps and so does each step of one thread among the others, as long as the scheduler is guarded.
-/
structure Keeps (invariant : σ → List ℓ → Prop) (guard : Pool σ ℓ → Action ℓ → Prop) : Prop where
  /-- The order of the threads does not matter. -/
  reorder : ∀ shared {threads threads'}, threads.Perm threads' → invariant shared threads →
    invariant shared threads'
  /-- An operation may start. -/
  begins : ∀ pool point, guard pool (.start point) → program.entry point = true →
    invariant pool.shared pool.threads → invariant pool.shared (point :: pool.threads)
  /-- One thread may take its step among the others. -/
  steps : ∀ pool index point shared continuation, guard pool (.advance index) →
    pool.threads[index]? = some point →
    program.step pool.shared point = some (shared, continuation) →
    invariant pool.shared (point :: pool.others index) →
    invariant shared (continuation.toList ++ pool.others index)

namespace Keeps

variable {program : Program σ ℓ} {invariant : σ → List ℓ → Prop}
  {guard : Pool σ ℓ → Action ℓ → Prop}

theorem next (keeps : program.Keeps invariant guard) {pool after : Pool σ ℓ} {action : Action ℓ}
    (guarded : guard pool action) (taken : program.next pool action = some after)
    (holds : invariant pool.shared pool.threads) : invariant after.shared after.threads := by
  cases action with
  | start point =>
      obtain ⟨enters, rfl⟩ := program.next_start.mp taken
      exact keeps.reorder _ (List.perm_append_singleton point pool.threads).symm
        (keeps.begins pool point guarded enters holds)
  | advance index =>
      obtain ⟨point, shared, continuation, stepped, before, shared_eq, moved, found⟩ :=
        program.next_advance taken
      rw [shared_eq]
      exact keeps.reorder _ moved.symm (keeps.steps pool index point shared continuation guarded
        found stepped (keeps.reorder _ before holds))

/-- What guarded steps keep holds at the end of every guarded run. -/
theorem run (keeps : program.Keeps invariant guard) {schedule : List (Action ℓ)}
    {initial final : Pool σ ℓ} (obeys : program.Obeys guard schedule initial)
    (execution : program.run schedule initial = some final)
    (start : invariant initial.shared initial.threads) : invariant final.shared final.threads :=
  program.run_invariant (fun pool => invariant pool.shared pool.threads)
    (fun _ _ _ guarded taken holds => keeps.next guarded taken holds) obeys execution start

end Keeps

end Program
end Foundation
