import AimailBridge.Foundation.Simulation
import AimailBridge.Server.Bridge

/-!
# Several polled systems

In pull mode one loop runs for each configured system, and all of them share the routes with the
server.  The routes are all they share: each loop goes through the run that it would go through
alone, on its own turns, with everything else as a change of the routes.
-/

namespace AimailBridge

open Foundation ProfileRouter Pull

/-- The loops are the same but for the routes in them. -/
def SameBesideRoutes (left right : PullLoop) : Prop :=
  left = { right with router := left.router }

/-- A turn in which the other tasks leave these routes behind before the fetch. -/
def Pull.CycleTurn.onRoutes (turn : CycleTurn) (router : ProfileRouter) : CycleTurn :=
  { turn with change := fun _ => turn.change router }

/-- A turn without what other tasks do before the fetch. -/
def Pull.CycleTurn.besideRoutes (turn : CycleTurn) : CycleTurn :=
  { turn with change := id }

/-- The turn that a system gets in an event. -/
def turnOf (system : Nat) : BridgeEvent → Option CycleTurn
  | .cycle other turn => if other = system then some turn else none
  | _ => none

/-- The turn that a system gets in an event, with the routes that it finds. -/
def ownTurns (system : Nat) (state : BridgeState) (event : BridgeEvent) : List CycleTurn :=
  ((turnOf system event).map (·.onRoutes state.app.router)).toList

/-- The turns that a system gets in a run, each with the routes that it finds. -/
def turnsOf (deployment : Deployment) (system : Nat) (state : BridgeState)
    (events : List BridgeEvent) : List CycleTurn :=
  reading (BridgeState.step deployment) (ownTurns system) state events

section Loops

variable {config : PullSystemConfig} {json : JsonCrate} {regex : RegexCrate}
  {left right : PullLoop} {turn : CycleTurn}

theorem SameBesideRoutes.refl (loop : PullLoop) : SameBesideRoutes loop loop := rfl

/-- A cycle that finds its routes somewhere else goes as one in which other tasks leave them. -/
theorem SameBesideRoutes.cycle (same : SameBesideRoutes left right) (router : ProfileRouter) :
    SameBesideRoutes (Pull.cycle config json regex { left with router } turn)
      (Pull.cycle config json regex right (turn.onRoutes router)) := by
  have shutdown_alike : (turn.onRoutes router).shutdown = turn.shutdown := rfl
  have fetched_alike :
      fetchPending ((turn.onRoutes router).change right.router) (turn.onRoutes router).relay =
        fetchPending (turn.change router) turn.relay := rfl
  rw [same, Pull.cycle, Pull.cycle, shutdown_alike, fetched_alike]
  by_cases stopped : right.stopped = true
  · rw [if_pos stopped, if_pos stopped]
    rfl
  · rw [if_neg stopped, if_neg stopped]
    by_cases shutdown : turn.shutdown = true
    · rw [if_pos shutdown, if_pos shutdown]
      rfl
    · rw [if_neg shutdown, if_neg shutdown]
      cases fetchPending (turn.change router) turn.relay <;> rfl

/-- An event leaves the loops of all other systems alone. -/
theorem loops_step {deployment : Deployment} {state : BridgeState} {event : BridgeEvent}
    {system : Nat} (other : turnOf system event = none) :
    (state.step deployment event).loops system = state.loops system := by
  cases event with
  | request turn => rfl
  | install content order => rfl
  | remove disk email => rfl
  | cycle cycled turn =>
      have different : system ≠ cycled := by
        rintro rfl
        rw [turnOf, if_pos rfl] at other
        cases other
      exact Function.update_of_ne different _ _

/-- Every event is a cycle of a loop alone, or nothing to it. -/
theorem SameBesideRoutes.step {deployment : Deployment} {state : BridgeState} {image : PullLoop}
    {system : Nat} (same : SameBesideRoutes (state.loops system) image) (event : BridgeEvent) :
    SameBesideRoutes ((state.step deployment event).loops system)
      ((ownTurns system state event).foldl
        (Pull.cycle (deployment.systems system) deployment.app.json deployment.app.regex)
        image) := by
  rw [ownTurns]
  cases own : turnOf system event with
  | none =>
      rw [loops_step own]
      exact same
  | some turn =>
      cases event with
      | request _ | install _ _ | remove _ _ => cases own
      | cycle cycled given =>
          obtain ⟨rfl, given_turn⟩ := Option.ite_none_right_eq_some.mp own
          obtain rfl := Option.some.inj given_turn
          have updated : (state.step deployment (.cycle cycled given)).loops cycled =
              state.cycled deployment cycled given := Function.update_self _ _ _
          rw [updated]
          exact same.cycle state.app.router

/-- In every run of the bridge, the loop of each system does what it would do alone on the turns
that are its own: what the server, the file, the health checker and the other systems do reaches it
as a change of the routes before its fetch, and in no other way. -/
theorem loops_alone (deployment : Deployment) (state : BridgeState) (events : List BridgeEvent)
    (system : Nat) :
    SameBesideRoutes ((events.foldl (BridgeState.step deployment) state).loops system)
        (Pull.run (deployment.systems system) deployment.app.json deployment.app.regex
          (state.loops system) (turnsOf deployment system state events)) ∧
      (turnsOf deployment system state events).map CycleTurn.besideRoutes =
        (events.filterMap (turnOf system)).map CycleTurn.besideRoutes := by
  refine ⟨?_, ?_⟩
  · exact related_run
      (fun (state : BridgeState) image => SameBesideRoutes (state.loops system) image)
      (fun _ _ event same => SameBesideRoutes.step same event) (SameBesideRoutes.refl _) events
  · have each : ∀ state event, (ownTurns system state event).map CycleTurn.besideRoutes =
        ((turnOf system event).map CycleTurn.besideRoutes).toList := by
      intro state event
      rw [ownTurns]
      cases turnOf system event <;> rfl
    rw [turnsOf, map_reading each, ← List.filterMap_eq_flatMap_toList, List.map_filterMap]

end Loops

end AimailBridge
