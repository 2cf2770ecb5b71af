import AimailBridge.Foundation.Expiring
import AimailBridge.Pull.Loop

/-!
# Safety of the pull protocol

Over every run: a delivery is acknowledged only after a forward of it was answered 2xx, earlier in
the cycle or within the time to live of the cache; two forwards of one id answered 2xx are at
least that far apart; and the acknowledgement of a cycle lists exactly the deliveries forwarded or
recognised in it. The invariant compares the cache with the 2xx answers in the log.
-/

namespace AimailBridge

open Foundation Text ProfileRouter Pull

/-! ## What a log says -/

namespace Pull.DeliveryEvent

/-- The delivery an event is about. -/
def delivery : DeliveryEvent → BatchDelivery
  | .recognised delivery _ | .unrouted delivery _ | .forwarded delivery _ _ _ _ => delivery

/-- When the dedup cache was checked for the delivery. -/
def checkedAt : DeliveryEvent → Instant
  | .recognised _ checkedAt | .unrouted _ checkedAt | .forwarded _ _ checkedAt _ _ => checkedAt

/-- The id and the time of a forward that was answered 2xx. -/
def accepted : DeliveryEvent → Option (Int64 × Instant)
  | .forwarded delivery _ _ answeredAt answer =>
      if answer.isSuccess then some (delivery.id, answeredAt) else none
  | _ => none

/-- The id that the event puts on the list to acknowledge, and when. -/
def entered : DeliveryEvent → Option (Int64 × Instant)
  | .recognised delivery checkedAt => some (delivery.id, checkedAt)
  | event => event.accepted

end Pull.DeliveryEvent

/-- A forward of this id was answered 2xx at this time. -/
def Answered (log : List DeliveryEvent) (id : Int64) (t : Instant) : Prop :=
  ∃ event ∈ log, event.accepted = some (id, t)

/-- What an event may say after the log before it: a recognised delivery was answered 2xx within the
time to live, and any other was not. -/
def Follows (log : List DeliveryEvent) : DeliveryEvent → Prop
  | .recognised delivery checkedAt =>
      ∃ t, Answered log delivery.id t ∧ t ≤ checkedAt ∧ checkedAt < t + seenTtl
  | .unrouted delivery checkedAt => ∀ t, Answered log delivery.id t → t + seenTtl ≤ checkedAt
  | .forwarded delivery _ checkedAt answeredAt _ =>
      checkedAt ≤ answeredAt ∧ ∀ t, Answered log delivery.id t → t + seenTtl ≤ checkedAt

/-- Every event follows from the log before it. -/
inductive SafeLog : List DeliveryEvent → Prop
  /-- Before the first event. -/
  | nil : SafeLog []
  /-- After one more event. -/
  | snoc {log : List DeliveryEvent} {event : DeliveryEvent} (safe : SafeLog log)
      (follows : Follows log event) : SafeLog (log ++ [event])

theorem SafeLog.split {log front back : List DeliveryEvent} {event : DeliveryEvent}
    (safe : SafeLog log) (split : log = front ++ event :: back) : Follows front event := by
  induction safe generalizing back with
  | nil => simp at split
  | @snoc log last safe follows induction =>
      rcases List.eq_nil_or_concat back with rfl | ⟨init, final, rfl⟩
      · obtain ⟨rfl, same⟩ := List.append_inj' split rfl
        obtain rfl := List.head_eq_of_cons_eq same
        exact follows
      · rw [List.concat_eq_append, ← List.cons_append, ← List.append_assoc] at split
        exact induction (List.append_inj' split rfl).1

theorem answered_snoc {log : List DeliveryEvent} {event : DeliveryEvent} {id : Int64}
    {t : Instant} :
    Answered (log ++ [event]) id t ↔ Answered log id t ∨ event.accepted = some (id, t) := by
  simp [Answered, or_and_right, exists_or]

/-! ## One delivery -/

/-- In the middle of a cycle, after the cycles with these events: the cache agrees with the log,
the log is safe, and the list to acknowledge is what the events of the cycle put there. -/
structure Tracks (earlier : List DeliveryEvent) (state : Forwarding) : Prop where
  /-- The cache agrees with the 2xx answers of the log. -/
  cache : Expiring.Agrees seenTtl state.clock (Answered (earlier ++ state.events)) state.seen
  /-- The log is safe. -/
  safe : SafeLog (earlier ++ state.events)
  /-- The list to acknowledge. -/
  acks : state.ackIds = state.events.filterMap fun event => event.entered.map Prod.fst

/-- Recording an event that follows from the log, and is neither accepted nor acknowledged. -/
theorem Tracks.record {earlier : List DeliveryEvent} {state : Forwarding} (event : DeliveryEvent)
    (tracks : Tracks earlier state) (follows : Follows (earlier ++ state.events) event)
    (router : ProfileRouter) {later : Instant} (passed : state.clock ≤ later)
    (not_entered : event.entered = none) (not_accepted : event.accepted = none) :
    Tracks earlier (Pull.record { state with clock := later, router } event) where
  cache := (tracks.cache.wait passed).congr fun id t => by
    rw [Pull.record, ← List.append_assoc, answered_snoc, not_accepted]
    simp
  safe := by
    rw [Pull.record, ← List.append_assoc]
    exact tracks.safe.snoc follows
  acks := by
    simp [Pull.record, tracks.acks, not_entered]

/-- A recognised delivery goes on the list to acknowledge. -/
theorem Tracks.recognise {earlier : List DeliveryEvent} {state : Forwarding}
    {delivery : BatchDelivery} (tracks : Tracks earlier state)
    (remembered : remembers state delivery.id = true) :
    Tracks earlier
      (acknowledge (Pull.record state (.recognised delivery state.clock)) delivery) where
  cache := tracks.cache.congr fun id t => by
    rw [acknowledge, Pull.record, ← List.append_assoc, answered_snoc]
    simp [DeliveryEvent.accepted]
  safe := by
    rw [acknowledge, Pull.record, ← List.append_assoc]
    refine tracks.safe.snoc ?_
    rw [remembers] at remembered
    split at remembered
    · next t found => exact ⟨t, tracks.cache.fresh found (by simpa using remembered)⟩
    · simp at remembered
  acks := by
    simp [acknowledge, Pull.record, tracks.acks, DeliveryEvent.entered]

/-- A forward that is answered 2xx enters the cache and the list to acknowledge. -/
theorem Tracks.accept {earlier : List DeliveryEvent} {state : Forwarding} {delivery : BatchDelivery}
    {request : Request} {answer : Answer} (tracks : Tracks earlier state)
    (stale : ∀ t, Answered (earlier ++ state.events) delivery.id t → t + seenTtl ≤ state.clock)
    (success : answer.isSuccess = true) (router : ProfileRouter) {later : Instant}
    (passed : state.clock ≤ later) :
    Tracks earlier
      (acknowledge { Pull.record { state with clock := later, router }
          (.forwarded delivery request state.clock later answer) with
        seen := state.seen.insert delivery.id later } delivery) where
  cache := (tracks.cache.insert delivery.id passed).congr fun id t => by
    rw [acknowledge, Pull.record, ← List.append_assoc, answered_snoc]
    simp [DeliveryEvent.accepted, success, eq_comm]
  safe := by
    rw [acknowledge, Pull.record, ← List.append_assoc]
    exact tracks.safe.snoc ⟨passed, stale⟩
  acks := by
    simp [acknowledge, Pull.record, tracks.acks, DeliveryEvent.entered, DeliveryEvent.accepted,
      success]

variable {regex : RegexCrate} {json : JsonCrate} {body : Bytes}

theorem Tracks.forward {earlier : List DeliveryEvent} {state : Forwarding}
    (tracks : Tracks earlier state) (turn : DeliveryTurn) {delivery : BatchDelivery}
    (forgotten : remembers state delivery.id = false) :
    Tracks earlier (Pull.forward regex turn body state delivery) := by
  have stale : ∀ t, Answered (earlier ++ state.events) delivery.id t →
      t + seenTtl ≤ state.clock := by
    refine fun t => tracks.cache.stale fun last found => ?_
    rw [remembers, found] at forgotten
    simpa using forgotten
  rw [Pull.forward]
  split
  · exact tracks.record (.unrouted delivery state.clock) stale _ le_rfl rfl rfl
  · next route router _ =>
      by_cases success : turn.answer.isSuccess = true
      · rw [if_pos success]
        exact tracks.accept stale success router (Nat.le_add_right _ _)
      · rw [if_neg success]
        refine tracks.record
          (.forwarded delivery _ state.clock (state.clock + turn.latency) turn.answer)
          ⟨Nat.le_add_right _ _, stale⟩ router (Nat.le_add_right _ _) ?_ ?_ <;>
          simp [DeliveryEvent.entered, DeliveryEvent.accepted, success]

theorem Tracks.wait {earlier : List DeliveryEvent} {state : Forwarding}
    (tracks : Tracks earlier state) (time : Nat) (router : ProfileRouter) :
    Tracks earlier { state with clock := state.clock + time, router } where
  cache := tracks.cache.wait (Nat.le_add_right _ _)
  safe := tracks.safe
  acks := tracks.acks

/-- Handling a delivery keeps the cache, the log and the list to acknowledge in step. -/
theorem Tracks.deliver {earlier : List DeliveryEvent} {state : Forwarding}
    (tracks : Tracks earlier state) (turn : DeliveryTurn) (delivery : BatchDelivery) :
    Tracks earlier (Pull.deliver regex turn body state delivery) := by
  have waited := tracks.wait turn.wait (turn.change state.router)
  simp only [Pull.deliver]
  split
  · next remembered => exact waited.recognise remembered
  · next forgotten => exact waited.forward turn (by simpa using forgotten)

/-! ## One cycle -/

theorem Tracks.deliverBatch {earlier : List DeliveryEvent} {turns : Nat → DeliveryTurn}
    {state : Forwarding} (tracks : Tracks earlier state) (deliveries : List BatchDelivery) :
    Tracks earlier (Pull.deliverBatch regex body turns state deliveries) := by
  induction deliveries generalizing turns state with
  | nil => exact tracks
  | cons delivery deliveries induction => exact induction (tracks.deliver (turns 0) delivery)

theorem Tracks.deliverBatches (json : JsonCrate) (regex : RegexCrate) (turns : Nat → DeliveryTurn)
    {earlier : List DeliveryEvent} {state : Forwarding} (tracks : Tracks earlier state)
    (batches : List PendingBatch) :
    Tracks earlier (Pull.deliverBatches json regex turns state batches).1 := by
  induction batches generalizing turns state with
  | nil => exact tracks
  | cons batch batches induction =>
      rw [Pull.deliverBatches]
      split
      · exact tracks
      · exact induction _ (tracks.deliverBatch batch.deliveries)

/-- Every delivery gets one event. -/
theorem deliver_events (turn : DeliveryTurn) (state : Forwarding) (delivery : BatchDelivery) :
    (Pull.deliver regex turn body state delivery).events.map DeliveryEvent.delivery =
      state.events.map DeliveryEvent.delivery ++ [delivery] := by
  simp only [Pull.deliver, Pull.forward]
  split
  · simp [acknowledge, Pull.record, DeliveryEvent.delivery]
  · split
    · simp [Pull.record, DeliveryEvent.delivery]
    · split <;> simp [acknowledge, Pull.record, DeliveryEvent.delivery]

theorem deliverBatch_events (turns : Nat → DeliveryTurn) (state : Forwarding)
    (deliveries : List BatchDelivery) :
    (Pull.deliverBatch regex body turns state deliveries).events.map DeliveryEvent.delivery =
      state.events.map DeliveryEvent.delivery ++ deliveries := by
  induction deliveries generalizing turns state with
  | nil => simp [Pull.deliverBatch]
  | cons delivery deliveries induction =>
      rw [Pull.deliverBatch, induction, deliver_events, List.append_assoc, List.singleton_append]

theorem deliverBatches_events (json : JsonCrate) (regex : RegexCrate) (turns : Nat → DeliveryTurn)
    (state : Forwarding) (batches : List PendingBatch)
    (completed : (Pull.deliverBatches json regex turns state batches).2 = true) :
    (Pull.deliverBatches json regex turns state batches).1.events.map DeliveryEvent.delivery =
      state.events.map DeliveryEvent.delivery ++ batches.flatMap PendingBatch.deliveries := by
  induction batches generalizing turns state with
  | nil => simp [Pull.deliverBatches]
  | cons batch batches induction =>
      cases serialised : json.toVec batch.body with
      | error message => simp [Pull.deliverBatches, serialised] at completed
      | ok body =>
          simp only [Pull.deliverBatches, serialised] at completed ⊢
          rw [induction _ _ completed, deliverBatch_events, List.append_assoc, List.flatMap_cons]

/-- Batches whose bodies serialise are all handled. -/
theorem deliverBatches_completed (serialises : ∀ value, ∃ bytes, json.toVec value = .ok bytes)
    (turns : Nat → DeliveryTurn) (state : Forwarding) (batches : List PendingBatch) :
    (deliverBatches json regex turns state batches).2 = true := by
  induction batches generalizing turns state with
  | nil => rfl
  | cons batch batches induction =>
      obtain ⟨bytes, serialised⟩ := serialises batch.body
      simp only [deliverBatches, serialised]
      exact induction _ _

/-! ## Runs -/

/-- What one cycle sends at its end: when all batches were handled, an acknowledgement of the
deliveries that were forwarded or recognised, if there are any. -/
structure AcksHandled (cycle : CycleLog) : Prop where
  /-- Every fetched delivery was handled, in order. -/
  handled : cycle.completed = true →
    cycle.events.map DeliveryEvent.delivery = cycle.fetched.flatMap PendingBatch.deliveries
  /-- The acknowledgement lists what was put there. -/
  listed : ∀ request, cycle.ack = some request →
    request.ids = cycle.events.filterMap fun event => event.entered.map Prod.fst
  /-- It is sent when there is something to acknowledge. -/
  sent : cycle.completed = true → (∃ event ∈ cycle.events, event.entered.isSome) →
    cycle.ack.isSome

/-- The events of all cycles, in order. -/
def allEvents (cycles : List CycleLog) : List DeliveryEvent :=
  cycles.flatMap CycleLog.events

/-- Between two cycles: the cache agrees with the log, the log is safe, and every cycle has
acknowledged what it handled. -/
structure LoopSafe (loop : PullLoop) : Prop where
  /-- The cache agrees with the 2xx answers of the log. -/
  cache : Expiring.Agrees seenTtl loop.clock (Answered (allEvents loop.cycles)) loop.seen
  /-- The log is safe. -/
  safe : SafeLog (allEvents loop.cycles)
  /-- The acknowledgements. -/
  acks : ∀ cycle ∈ loop.cycles, AcksHandled cycle

theorem allEvents_snoc (cycles : List CycleLog) (cycle : CycleLog) :
    allEvents (cycles ++ [cycle]) = allEvents cycles ++ cycle.events := by
  simp [allEvents]

theorem loopSafe_start (clock : Instant) (router : ProfileRouter) :
    LoopSafe (Pull.start clock router) where
  cache := (Expiring.agrees_empty seenTtl clock).congr fun id t => by
    simp [Answered, allEvents, Pull.start]
  safe := SafeLog.nil
  acks cycle member := by simp [Pull.start] at member

theorem LoopSafe.sweep {loop : PullLoop} (loop_safe : LoopSafe loop) (turn : CycleTurn) :
    Expiring.Agrees seenTtl (loop.clock + turn.sweepTime) (Answered (allEvents loop.cycles))
      (sweepSeen turn loop) :=
  loop_safe.cache.sweep (Nat.le_add_right _ _) fun id => by omega

theorem LoopSafe.begin {loop : PullLoop} (loop_safe : LoopSafe loop) (turn : CycleTurn) :
    Tracks (allEvents loop.cycles) (beginForwarding turn loop) where
  cache := by
    simpa [beginForwarding] using (loop_safe.sweep turn).wait (Nat.le_add_right _ turn.fetchTime)
  safe := by simpa [beginForwarding] using loop_safe.safe
  acks := rfl

theorem acksHandled_finish {state : Forwarding} {fetched : List PendingBatch} {completed : Bool}
    {poll : Option PollRequest} {config : PullSystemConfig}
    (acks : state.ackIds = state.events.filterMap fun event => event.entered.map Prod.fst)
    (handled : completed = true →
      state.events.map DeliveryEvent.delivery = fetched.flatMap PendingBatch.deliveries) :
    AcksHandled
      { poll, fetched, events := state.events, completed
        ack := if completed && !state.ackIds.isEmpty then some (ackRequest config state.ackIds)
          else none } where
  handled := handled
  listed request sent := by
    obtain ⟨_, same⟩ := Option.ite_none_right_eq_some.mp sent
    rw [← Option.some.inj same]
    exact acks
  sent finished := by
    rintro ⟨event, member, entered⟩
    obtain ⟨entry, found⟩ := Option.isSome_iff_exists.mp entered
    have listed : entry.1 ∈ state.ackIds := by
      rw [acks, List.mem_filterMap]
      exact ⟨event, member, by simp [found]⟩
    simp [show completed = true from finished, List.ne_nil_of_mem listed]

theorem LoopSafe.finishCycle {config : PullSystemConfig} {loop : PullLoop}
    (loop_safe : LoopSafe loop) (turn : CycleTurn) (fetched : List PendingBatch) :
    LoopSafe (Pull.finishCycle config json regex turn loop fetched) := by
  have tracks := Tracks.deliverBatches json regex turn.deliveries (loop_safe.begin turn) fetched
  have handled :=
    deliverBatches_events json regex turn.deliveries (beginForwarding turn loop) fetched
  simp only [Pull.finishCycle]
  generalize Pull.deliverBatches json regex turn.deliveries (beginForwarding turn loop) fetched =
    outcome at tracks handled
  obtain ⟨state, completed⟩ := outcome
  refine ⟨?_, ?_, fun cycle member => ?_⟩
  · rw [allEvents_snoc, Nat.add_assoc]
    exact tracks.cache.wait (Nat.le_add_right _ _)
  · rw [allEvents_snoc]
    exact tracks.safe
  · rcases List.mem_append.mp member with old | new
    · exact loop_safe.acks cycle old
    · obtain rfl := List.mem_singleton.mp new
      exact acksHandled_finish tracks.acks fun finished => by
        simpa [beginForwarding] using handled finished

/-- One cycle keeps the loop safe. -/
theorem LoopSafe.cycle {config : PullSystemConfig} {loop : PullLoop} (loop_safe : LoopSafe loop)
    (turn : CycleTurn) : LoopSafe (Pull.cycle config json regex loop turn) := by
  rw [Pull.cycle]
  split
  · exact loop_safe
  split
  · exact ⟨loop_safe.cache, loop_safe.safe, loop_safe.acks⟩
  split
  · exact loop_safe.finishCycle turn _
  · refine ⟨?_, ?_, fun cycle member => ?_⟩
    · rw [allEvents_snoc, List.append_nil, Nat.add_assoc, Nat.add_assoc]
      exact (loop_safe.sweep turn).wait (Nat.le_add_right _ _)
    · rw [allEvents_snoc, List.append_nil]
      exact loop_safe.safe
    · rcases List.mem_append.mp member with old | new
      · exact loop_safe.acks cycle old
      · obtain rfl := List.mem_singleton.mp new
        exact ⟨fun _ => rfl, by simp, by simp⟩

theorem LoopSafe.run (config : PullSystemConfig) (json : JsonCrate) (regex : RegexCrate)
    {loop : PullLoop} (loop_safe : LoopSafe loop) (turns : List CycleTurn) :
    LoopSafe (Pull.run config json regex loop turns) := by
  induction turns generalizing loop with
  | nil => exact loop_safe
  | cons turn turns induction => exact induction (loop_safe.cycle turn)

/-! ## The protocol -/

/-- The safety of the pull protocol, of the cycles of one run. -/
structure PullSafe (cycles : List CycleLog) : Prop where
  /-- An id enters the list to acknowledge only if a forward of it was answered 2xx, earlier in
  the cycle or less than the time to live before. -/
  entered_answered : ∀ before cycle after, cycles = before ++ cycle :: after →
    ∀ front event back, cycle.events = front ++ event :: back →
      ∀ id t, event.entered = some (id, t) →
        (∃ answeredAt, Answered (front ++ [event]) id answeredAt) ∨
          ∃ answeredAt, Answered (allEvents before) id answeredAt ∧ answeredAt ≤ t ∧
            t < answeredAt + seenTtl
  /-- Two forwards of one id that are answered 2xx are at least the time to live apart. -/
  accepted_apart : (allEvents cycles).Pairwise fun first second =>
    ∀ id t t', first.accepted = some (id, t) → second.accepted = some (id, t') → t + seenTtl ≤ t'
  /-- An acknowledgement lists exactly the deliveries of its cycle that were forwarded with 2xx or
  recognised. -/
  acknowledged : ∀ cycle ∈ cycles, ∀ request, cycle.ack = some request →
    ∀ id, id ∈ request.ids ↔ ∃ event ∈ cycle.events, ∃ t, event.entered = some (id, t)
  /-- A cycle that handled all its batches sends it when there is such a delivery. -/
  sent : ∀ cycle ∈ cycles, cycle.completed = true → (∃ event ∈ cycle.events, event.entered.isSome) →
    cycle.ack.isSome
  /-- Such a cycle has handled every fetched delivery. -/
  handled : ∀ cycle ∈ cycles, cycle.completed = true →
    cycle.events.map DeliveryEvent.delivery = cycle.fetched.flatMap PendingBatch.deliveries
  /-- A delivery that was not recognised was not remembered: no forward of it had been answered 2xx
  within the time to live. -/
  forgotten : ∀ front event back, allEvents cycles = front ++ event :: back →
    (∀ delivery t, event ≠ .recognised delivery t) →
      ∀ t, Answered front event.delivery.id t → t + seenTtl ≤ event.checkedAt

theorem Follows.stale {log : List DeliveryEvent} {event : DeliveryEvent}
    (follows : Follows log event) (not_recognised : ∀ delivery t, event ≠ .recognised delivery t)
    {t : Instant} (answered : Answered log event.delivery.id t) :
    t + seenTtl ≤ event.checkedAt := by
  cases event with
  | recognised delivery checkedAt => exact absurd rfl (not_recognised delivery checkedAt)
  | unrouted delivery checkedAt => exact follows t answered
  | forwarded delivery request checkedAt answeredAt answer => exact follows.2 t answered

/-- A 2xx answer comes at least the time to live after every earlier one for the id. -/
theorem Follows.apart {log : List DeliveryEvent} {event : DeliveryEvent}
    (follows : Follows log event) {id : Int64} {t t' : Instant}
    (accepted : event.accepted = some (id, t')) (answered : Answered log id t) :
    t + seenTtl ≤ t' := by
  cases event with
  | recognised delivery checkedAt => simp [DeliveryEvent.accepted] at accepted
  | unrouted delivery checkedAt => simp [DeliveryEvent.accepted] at accepted
  | forwarded delivery request checkedAt answeredAt answer =>
      obtain ⟨_, same⟩ := Option.ite_none_right_eq_some.mp accepted
      obtain ⟨rfl, rfl⟩ := Prod.mk.inj (Option.some.inj same)
      exact Nat.le_trans (follows.2 t answered) follows.1

theorem SafeLog.pairwise {log : List DeliveryEvent} (safe : SafeLog log) :
    log.Pairwise fun first second =>
      ∀ id t t', first.accepted = some (id, t) → second.accepted = some (id, t') →
        t + seenTtl ≤ t' := by
  induction safe with
  | nil => exact List.Pairwise.nil
  | snoc safe follows induction =>
      rw [List.pairwise_append]
      refine ⟨induction, List.pairwise_singleton _ _, fun first member second last => ?_⟩
      obtain rfl := List.mem_singleton.mp last
      exact fun id t t' before after => follows.apart after ⟨first, member, before⟩

/-- An event that enters the list to acknowledge is a 2xx answer or follows one within the time to
live. -/
theorem Follows.entered {log : List DeliveryEvent} {event : DeliveryEvent}
    (follows : Follows log event) {id : Int64} {t : Instant}
    (entered : event.entered = some (id, t)) :
    event.accepted = some (id, t) ∨
      ∃ answeredAt, Answered log id answeredAt ∧ answeredAt ≤ t ∧ t < answeredAt + seenTtl := by
  cases event with
  | recognised delivery checkedAt =>
      obtain ⟨rfl, rfl⟩ := Prod.mk.inj (Option.some.inj entered)
      exact Or.inr follows
  | unrouted delivery checkedAt => exact Or.inl entered
  | forwarded delivery request checkedAt answeredAt answer => exact Or.inl entered

/-- Every run of the pull loop is safe, whatever the relay sends, the agents answer, other tasks
do to the routes and becomes of the acknowledgements. -/
theorem pullSafe_run (config : PullSystemConfig) (json : JsonCrate) (regex : RegexCrate)
    (clock : Instant) (router : ProfileRouter) (turns : List CycleTurn) :
    PullSafe (Pull.run config json regex (Pull.start clock router) turns).cycles := by
  have loop_safe := LoopSafe.run config json regex (loopSafe_start clock router) turns
  generalize (Pull.run config json regex (Pull.start clock router) turns) = loop at loop_safe
  refine ⟨?_, loop_safe.safe.pairwise, ?_, fun cycle member => (loop_safe.acks cycle member).sent,
    fun cycle member => (loop_safe.acks cycle member).handled, ?_⟩
  · intro before cycle after cycles_eq front event back events_eq id t entered
    have split : allEvents loop.cycles =
        (allEvents before ++ front) ++ event :: (back ++ allEvents after) := by
      simp [cycles_eq, allEvents, events_eq]
    rcases (loop_safe.safe.split split).entered entered with
      accepted | ⟨answeredAt, answered, recent⟩
    · exact Or.inl ⟨t, event, by simp, accepted⟩
    · obtain ⟨first, member, accepted⟩ := answered
      rcases List.mem_append.mp member with earlier | same_cycle
      · exact Or.inr ⟨answeredAt, ⟨first, earlier, accepted⟩, recent⟩
      · exact Or.inl ⟨answeredAt, first, List.mem_append_left _ same_cycle, accepted⟩
  · intro cycle member request sent id
    rw [(loop_safe.acks cycle member).listed request sent, List.mem_filterMap]
    simp [Option.map_eq_some_iff]
  · intro front event back split not_recognised t answered
    exact (loop_safe.safe.split split).stale not_recognised answered

/-! ## Complete cycles -/

theorem finishCycle_cycles (config : PullSystemConfig) (json : JsonCrate) (regex : RegexCrate)
    (turn : CycleTurn) (loop : PullLoop) (fetched : List PendingBatch) :
    ∃ cycle, (finishCycle config json regex turn loop fetched).cycles = loop.cycles ++ [cycle] ∧
      cycle.events =
        (deliverBatches json regex turn.deliveries (beginForwarding turn loop) fetched).1.events ∧
      cycle.completed =
        (deliverBatches json regex turn.deliveries (beginForwarding turn loop) fetched).2 :=
  ⟨_, rfl, rfl, rfl⟩

/-- When all bodies serialise, one more cycle handles all its batches. -/
theorem completed_cycle {config : PullSystemConfig} {loop : PullLoop}
    (serialises : ∀ value, ∃ bytes, json.toVec value = .ok bytes)
    (completed : ∀ cycle ∈ loop.cycles, cycle.completed = true) (turn : CycleTurn) :
    ∀ cycle ∈ (Pull.cycle config json regex loop turn).cycles, cycle.completed = true := by
  rw [Pull.cycle]
  split
  · exact completed
  split
  · exact completed
  split
  · next fetched _ =>
      obtain ⟨last, cycles, _, same⟩ := finishCycle_cycles config json regex turn loop fetched
      rw [cycles]
      intro cycle member
      rcases List.mem_append.mp member with old | new
      · exact completed cycle old
      · obtain rfl := List.mem_singleton.mp new
        rw [same]
        exact deliverBatches_completed serialises _ _ _
  · intro cycle member
    rcases List.mem_append.mp member with old | new
    · exact completed cycle old
    · obtain rfl := List.mem_singleton.mp new
      rfl

theorem completed_run {config : PullSystemConfig} {loop : PullLoop}
    (serialises : ∀ value, ∃ bytes, json.toVec value = .ok bytes)
    (completed : ∀ cycle ∈ loop.cycles, cycle.completed = true) (turns : List CycleTurn) :
    ∀ cycle ∈ (Pull.run config json regex loop turns).cycles, cycle.completed = true := by
  induction turns generalizing loop with
  | nil => exact completed
  | cons turn turns induction => exact induction (completed_cycle serialises completed turn)

/-- When all bodies serialise, every cycle of every run handles all that it has fetched, and
acknowledges it where there is something to acknowledge. -/
theorem handles_all_run (serialises : ∀ value, ∃ bytes, json.toVec value = .ok bytes)
    (config : PullSystemConfig) (clock : Instant) (router : ProfileRouter)
    (turns : List CycleTurn) :
    ∀ cycle ∈ (Pull.run config json regex (Pull.start clock router) turns).cycles,
      cycle.events.map DeliveryEvent.delivery = cycle.fetched.flatMap PendingBatch.deliveries ∧
        ((∃ event ∈ cycle.events, event.entered.isSome) → cycle.ack.isSome) := by
  intro cycle member
  have unstarted : ∀ cycle ∈ (Pull.start clock router).cycles, cycle.completed = true :=
    fun _ started => absurd started List.not_mem_nil
  have completed := completed_run serialises unstarted turns cycle member
  have acks := (LoopSafe.run config json regex (loopSafe_start clock router) turns).acks cycle
    member
  exact ⟨acks.handled completed, acks.sent completed⟩

end AimailBridge
