import AimailBridge.Pull.Safety

/-!
# Responses with malformed items

The batches of a response are decoded all at once.  When every element decodes, every well-formed
delivery whose email has a route and whose agent answers 2xx is handled and acknowledged, whatever
becomes of the others; one element that does not decode leaves all of them unhandled.
-/

namespace AimailBridge

open Foundation Text ProfileRouter Pull

/-! ## Elements of a response -/

/-- The body of an element, before it is decoded. -/
def rawBody : Json → Option Json
  | .object members => members.lookup "body".toList
  | .array [body, _] => some body
  | _ => none

/-- The deliveries of an element, before they are decoded. -/
def rawDeliveries : Json → List Json
  | .object members => ((members.lookup "deliveries".toList).bind Json.asArray).getD []
  | .array [_, deliveries] => deliveries.asArray.getD []
  | _ => []

/-- How many deliveries come before the one after `front` in the element after `before`. -/
def slotOf (before front : List Json) : Nat :=
  (before.map fun item => (rawDeliveries item).length).sum + front.length

/-- The elements of a response contain a well-formed delivery, in an element that has a body, as
the one with this number. -/
def ContainsDelivery (items : List Json) (delivery : BatchDelivery) (slot : Nat) : Prop :=
  ∃ before item after front raw back, items = before ++ item :: after ∧
    rawDeliveries item = front ++ raw :: back ∧ slot = slotOf before front ∧
      (rawBody item).isSome ∧ BatchDelivery.decode raw = some delivery

theorem ofFields_deliveries {body deliveries : Option Json} {batch : PendingBatch}
    (decoded : PendingBatch.ofFields body deliveries = some batch) :
    ((deliveries.bind Json.asArray).getD []).mapM BatchDelivery.decode = some batch.deliveries := by
  simp only [PendingBatch.ofFields, Option.bind_eq_some_iff, Option.map_eq_some_iff] at decoded
  obtain ⟨_, _, _, ⟨raw, listed, decoded⟩, rfl⟩ := decoded
  obtain ⟨value, found, list⟩ := listed
  simp [found, list, decoded]

/-- A decoded batch has the decoded deliveries of its element, in order. -/
theorem mapM_rawDeliveries {item : Json} {batch : PendingBatch}
    (decoded : PendingBatch.decode item = some batch) :
    (rawDeliveries item).mapM BatchDelivery.decode = some batch.deliveries := by
  rw [PendingBatch.decode.eq_def] at decoded
  split at decoded
  · exact ofFields_deliveries decoded
  · exact ofFields_deliveries decoded
  · simp at decoded

/-- What is decoded from a list with an item in the middle. -/
theorem mapM_append_cons {α β : Type} {f : α → Option β} {before after : List α} {item : α}
    {decoded : List β} (all : (before ++ item :: after).mapM f = some decoded) :
    ∃ front value back, decoded = front ++ value :: back ∧ before.mapM f = some front ∧
      f item = some value := by
  simp only [List.mapM_append, List.mapM_cons, Option.bind_eq_bind, Option.pure_def,
    Option.bind_eq_some_iff, Option.some.injEq] at all
  obtain ⟨front, front_decoded, _, ⟨value, item_decoded, back, _, rfl⟩, rfl⟩ := all
  exact ⟨front, value, back, rfl, front_decoded, item_decoded⟩

/-- What a list is decoded to corresponds to it item by item. -/
theorem mapM_eq_some_iff {α β : Type} {f : α → Option β} {items : List α} {decoded : List β} :
    items.mapM f = some decoded ↔
      List.Forall₂ (fun item value => f item = some value) items decoded := by
  induction items generalizing decoded with
  | nil => simp [eq_comm]
  | cons item items induction =>
      simp only [List.mapM_cons, Option.bind_eq_bind, Option.pure_def, Option.bind_eq_some_iff,
        Option.some.injEq, List.forall₂_cons_left_iff, induction]
      constructor
      · rintro ⟨value, first, rest, corresponding, rfl⟩
        exact ⟨value, rest, first, corresponding, rfl⟩
      · rintro ⟨value, rest, first, corresponding, rfl⟩
        exact ⟨value, first, rest, corresponding, rfl⟩

theorem mapM_length {α β : Type} {f : α → Option β} {items : List α} {decoded : List β}
    (all : items.mapM f = some decoded) : decoded.length = items.length :=
  (mapM_eq_some_iff.mp all).length_eq.symm

/-- Decoding succeeds on a list exactly when it does on each item. -/
theorem mapM_isSome_iff {α β : Type} {f : α → Option β} {items : List α} :
    (items.mapM f).isSome ↔ ∀ item ∈ items, (f item).isSome := by
  induction items with
  | nil => simp
  | cons item items induction =>
      rw [List.forall_mem_cons, ← induction, List.mapM_cons]
      cases f item <;> cases items.mapM f <;> simp

theorem sum_rawDeliveries {items : List Json} {batches : List PendingBatch}
    (decoded : items.mapM PendingBatch.decode = some batches) :
    (items.map fun item => (rawDeliveries item).length).sum =
      (batches.map fun batch => batch.deliveries.length).sum := by
  induction mapM_eq_some_iff.mp decoded with
  | nil => rfl
  | cons item_decoded _ induction =>
      rw [List.map_cons, List.sum_cons, List.map_cons, List.sum_cons,
        induction (mapM_eq_some_iff.mpr ‹_›), mapM_length (mapM_rawDeliveries item_decoded)]

/-- Where a delivery of the response stands among the decoded batches. -/
theorem ContainsDelivery.decoded {items : List Json} {delivery : BatchDelivery} {slot : Nat}
    {batches : List PendingBatch} (contains : ContainsDelivery items delivery slot)
    (decoded : items.mapM PendingBatch.decode = some batches) :
    ∃ before batch after front back, batches = before ++ batch :: after ∧
      batch.deliveries = front ++ delivery :: back ∧
        slot = (before.map fun batch => batch.deliveries.length).sum + front.length := by
  obtain ⟨before, item, after, front, raw, back, rfl, deliveries, rfl, _, well_formed⟩ := contains
  obtain ⟨batches_before, batch, batches_after, rfl, before_decoded, item_decoded⟩ :=
    mapM_append_cons decoded
  have batch_decoded := mapM_rawDeliveries item_decoded
  rw [deliveries] at batch_decoded
  obtain ⟨batch_front, value, batch_back, split, front_decoded, raw_decoded⟩ :=
    mapM_append_cons batch_decoded
  obtain rfl : value = delivery := Option.some.inj (raw_decoded.symm.trans well_formed)
  refine ⟨batches_before, batch, batches_after, batch_front, batch_back, rfl, split, ?_⟩
  rw [slotOf, sum_rawDeliveries before_decoded, mapM_length front_decoded]

/-! ## Handling a delivery among others -/

/-- No change by another task up to this turn takes the route of an email away. -/
def KeepsRouted (regex : RegexCrate) (email : Text) (turns : Nat → DeliveryTurn) (slot : Nat) :
    Prop :=
  ∀ turn ≤ slot, ∀ router, (lookup regex router email).1.isSome →
    (lookup regex ((turns turn).change router) email).1.isSome

variable {regex : RegexCrate} {json : JsonCrate} {body : Bytes}

/-- The delivery was forwarded and answered 2xx, or recognised as one that had been. -/
def Served (events : List DeliveryEvent) (delivery : BatchDelivery) : Prop :=
  ∃ event ∈ events, event.delivery = delivery ∧ event.entered.isSome

theorem Served.mono {events events' : List DeliveryEvent} {delivery : BatchDelivery}
    (served : Served events delivery) (grown : events <+: events') : Served events' delivery := by
  obtain ⟨event, member, about, entered⟩ := served
  exact ⟨event, grown.subset member, about, entered⟩

theorem deliver_extends (turn : DeliveryTurn) (state : Forwarding) (delivery : BatchDelivery) :
    state.events <+: (deliver regex turn body state delivery).events := by
  simp only [deliver, forward]
  split
  · exact List.prefix_append _ _
  · split
    · exact List.prefix_append _ _
    · split <;> exact List.prefix_append _ _

theorem deliverBatch_extends (turns : Nat → DeliveryTurn) (state : Forwarding)
    (deliveries : List BatchDelivery) :
    state.events <+: (deliverBatch regex body turns state deliveries).events := by
  induction deliveries generalizing turns state with
  | nil => exact List.prefix_refl _
  | cons delivery deliveries induction =>
      exact (deliver_extends (turns 0) state delivery).trans (induction _ _)

theorem deliverBatches_extends (turns : Nat → DeliveryTurn) (state : Forwarding)
    (batches : List PendingBatch) :
    state.events <+: (deliverBatches json regex turns state batches).1.events := by
  induction batches generalizing turns state with
  | nil => exact List.prefix_refl _
  | cons batch batches induction =>
      rw [deliverBatches]
      split
      · exact List.prefix_refl _
      · exact (deliverBatch_extends turns state batch.deliveries).trans (induction _ _)

/-- The lookup for one delivery leaves the routes of all emails. -/
theorem deliver_keeps_routed {turn : DeliveryTurn} {state : Forwarding} {email : Text}
    (other : BatchDelivery)
    (routed : (lookup regex (turn.change state.router) email).1.isSome) :
    (lookup regex (deliver regex turn body state other).router email).1.isSome := by
  have kept : (lookup regex
      (lookup regex (turn.change state.router) other.email).2 email).1.isSome := by
    rwa [lookup_lookup]
  simp only [deliver]
  split
  · exact routed
  · rw [forward]
    split
    · next router found =>
        simp only [found] at kept
        exact kept
    · next route router found =>
        simp only [found] at kept
        split <;> exact kept

/-- A delivery whose email has a route and whose agent answers 2xx is served, unless it has been. -/
theorem deliver_serves {turn : DeliveryTurn} {state : Forwarding} {delivery : BatchDelivery}
    (routed : (lookup regex (turn.change state.router) delivery.email).1.isSome)
    (answered : turn.answer.isSuccess = true) :
    Served (deliver regex turn body state delivery).events delivery := by
  simp only [deliver]
  split
  · refine ⟨_, List.mem_append_right _ (List.mem_singleton.mpr rfl), rfl, rfl⟩
  · rw [forward]
    split
    · next router found =>
        simp [found] at routed
    · simp only [if_pos answered, acknowledge, record]
      refine ⟨_, List.mem_append_right _ (List.mem_singleton.mpr rfl), rfl, ?_⟩
      simp [DeliveryEvent.entered, DeliveryEvent.accepted, answered]

theorem deliverBatch_keeps_routed {email : Text} {turns : Nat → DeliveryTurn} {state : Forwarding}
    (deliveries : List BatchDelivery) {slot : Nat} (within : deliveries.length ≤ slot)
    (keeps : KeepsRouted regex email turns slot)
    (routed : (lookup regex state.router email).1.isSome) :
    (lookup regex (deliverBatch regex body turns state deliveries).router email).1.isSome := by
  induction deliveries generalizing turns state slot with
  | nil => exact routed
  | cons delivery deliveries induction =>
      rw [List.length_cons] at within
      refine @induction _ _ (slot - 1) ?_ ?_ ?_
      · omega
      · exact fun turn bound => keeps (turn + 1) (by omega)
      · exact deliver_keeps_routed delivery (keeps 0 (by omega) _ routed)

theorem deliverBatch_serves {turns : Nat → DeliveryTurn} {state : Forwarding}
    {delivery : BatchDelivery} (front back : List BatchDelivery)
    (keeps : KeepsRouted regex delivery.email turns front.length)
    (routed : (lookup regex state.router delivery.email).1.isSome)
    (answered : (turns front.length).answer.isSuccess = true) :
    Served (deliverBatch regex body turns state (front ++ delivery :: back)).events delivery := by
  induction front generalizing turns state with
  | nil =>
      have served : Served (deliver regex (turns 0) body state delivery).events delivery :=
        deliver_serves (keeps 0 (Nat.zero_le _) _ routed) answered
      exact served.mono (deliverBatch_extends _ _ back)
  | cons other front induction =>
      apply induction
      · exact fun turn bound => keeps (turn + 1) (Nat.succ_le_succ bound)
      · exact deliver_keeps_routed other (keeps 0 (Nat.zero_le _) _ routed)
      · exact answered

theorem Pull.DeliveryEvent.entered_id (event : DeliveryEvent) (entered : event.entered.isSome) :
    event.entered.map Prod.fst = some event.delivery.id := by
  cases event with
  | recognised delivery checkedAt => rfl
  | unrouted delivery checkedAt => exact absurd entered Bool.false_ne_true
  | forwarded delivery request checkedAt answeredAt answer =>
      have success : answer.isSuccess = true := by
        by_contra failed
        simp [DeliveryEvent.entered, DeliveryEvent.accepted, failed] at entered
      simp [DeliveryEvent.entered, DeliveryEvent.accepted, DeliveryEvent.delivery, success]

theorem deliverBatches_serves (serialises : ∀ value, ∃ bytes, json.toVec value = .ok bytes)
    {turns : Nat → DeliveryTurn} {state : Forwarding} {delivery : BatchDelivery}
    (before after : List PendingBatch) {batch : PendingBatch} {front back : List BatchDelivery}
    (contents : batch.deliveries = front ++ delivery :: back) {slot : Nat}
    (slot_eq : slot = (before.map fun batch => batch.deliveries.length).sum + front.length)
    (keeps : KeepsRouted regex delivery.email turns slot)
    (routed : (lookup regex state.router delivery.email).1.isSome)
    (answered : (turns slot).answer.isSuccess = true) :
    Served (deliverBatches json regex turns state (before ++ batch :: after)).1.events
      delivery := by
  induction before generalizing turns state slot with
  | nil =>
      obtain ⟨bytes, serialised⟩ := serialises batch.body
      obtain rfl : slot = front.length := by simpa using slot_eq
      simp only [List.nil_append, deliverBatches, serialised]
      refine Served.mono ?_ (deliverBatches_extends _ _ after)
      rw [contents]
      exact deliverBatch_serves front back keeps routed answered
  | cons earlier before induction =>
      obtain ⟨bytes, serialised⟩ := serialises earlier.body
      rw [List.map_cons, List.sum_cons] at slot_eq
      simp only [List.cons_append, deliverBatches, serialised]
      refine @induction _ _ (slot - earlier.deliveries.length) ?_ ?_ ?_ ?_
      · omega
      · exact fun turn bound => keeps (turn + earlier.deliveries.length) (by omega)
      · exact deliverBatch_keeps_routed earlier.deliveries (by omega) keeps routed
      · rwa [Nat.sub_add_cancel (by omega)]

/-! ## Cycles -/

/-- The cycle polls and receives a response with these elements under `batches`. -/
structure Receives (loop : PullLoop) (turn : CycleTurn) (items : List Json) : Prop where
  /-- The loop has not returned. -/
  running : loop.stopped = false
  /-- No shutdown has been requested. -/
  wanted : turn.shutdown = false
  /-- The poll is sent. -/
  polled : listEmails (turn.change loop.router) ≠ []
  /-- The response has the elements. -/
  response : ∃ body, turn.relay = some body ∧ (body.index "batches".toList).asArray = some items

/-- The email has a route when the response arrives, and up to its turn. -/
def RoutedUntil (regex : RegexCrate) (loop : PullLoop) (turn : CycleTurn) (email : Text)
    (slot : Nat) : Prop :=
  (lookup regex (turn.change loop.router) email).1.isSome ∧
    KeepsRouted regex email turn.deliveries slot

/-- A delivery is forwarded in a cycle, unless it has been, and acknowledged at its end. -/
def ForwardedAndAcked (cycle : CycleLog) (delivery : BatchDelivery) : Prop :=
  Served cycle.events delivery ∧
    ∃ request, cycle.ack = some request ∧ delivery.id ∈ request.ids

/-- The next cycle forwards and acknowledges the delivery. -/
def NextHandles (config : PullSystemConfig) (json : JsonCrate) (regex : RegexCrate)
    (loop : PullLoop) (turn : CycleTurn) (delivery : BatchDelivery) : Prop :=
  ∃ cycle, (Pull.cycle config json regex loop turn).cycles = loop.cycles ++ [cycle] ∧
    ForwardedAndAcked cycle delivery

variable {config : PullSystemConfig} {loop : PullLoop} {turn : CycleTurn} {items : List Json}
  {delivery : BatchDelivery} {slot : Nat}

theorem Receives.cycle_eq (receives : Receives loop turn items) :
    Pull.cycle config json regex loop turn =
      finishCycle config json regex turn loop
        ((items.mapM PendingBatch.decode).getD []) := by
  obtain ⟨response, arrived, elements⟩ := receives.response
  have fetched : fetchPending (turn.change loop.router) turn.relay =
      some ((items.mapM PendingBatch.decode).getD []) := by
    rw [fetchPending, if_neg receives.polled, arrived, Option.map_some, elements, Option.bind_some]
  simp [Pull.cycle, receives.running, receives.wanted, fetched]

/-- The acknowledgement of a completed cycle lists what was served. -/
theorem AcksHandled.lists {cycle : CycleLog} (acks : AcksHandled cycle)
    (served : Served cycle.events delivery) (completed : cycle.completed = true) :
    ∃ request, cycle.ack = some request ∧ delivery.id ∈ request.ids := by
  obtain ⟨event, member, rfl, entered⟩ := served
  obtain ⟨request, sent⟩ :=
    Option.isSome_iff_exists.mp (acks.sent completed ⟨event, member, entered⟩)
  refine ⟨request, sent, ?_⟩
  rw [acks.listed request sent, List.mem_filterMap]
  exact ⟨event, member, event.entered_id entered⟩

/-- An element that does not decode leaves every delivery unhandled. -/
theorem Receives.decodes (receives : Receives loop turn items)
    (handles : NextHandles config json regex loop turn delivery) :
    ∀ item ∈ items, (PendingBatch.decode item).isSome := by
  rw [← mapM_isSome_iff]
  by_contra undecoded
  have nothing : items.mapM PendingBatch.decode = none := Option.not_isSome_iff_eq_none.mp undecoded
  obtain ⟨cycle, cycles, ⟨event, member, _⟩, _⟩ := handles
  rw [receives.cycle_eq, nothing] at cycles
  have last := List.append_cancel_left cycles
  have no_events : cycle.events = [] := by
    rw [← List.singleton_injective last]
    rfl
  simp [no_events] at member

/-- When all elements decode, a delivery whose email has a route and whose agent answers 2xx is
forwarded and acknowledged. -/
theorem Receives.handles (serialises : ∀ value, ∃ bytes, json.toVec value = .ok bytes)
    (loop_safe : LoopSafe loop) (receives : Receives loop turn items)
    (contains : ContainsDelivery items delivery slot)
    (routed : RoutedUntil regex loop turn delivery.email slot)
    (answered : (turn.deliveries slot).answer.isSuccess = true)
    (decodes : ∀ item ∈ items, (PendingBatch.decode item).isSome) :
    NextHandles config json regex loop turn delivery := by
  obtain ⟨batches, decoded⟩ := Option.isSome_iff_exists.mp (mapM_isSome_iff.mpr decodes)
  obtain ⟨before, batch, after, front, back, rfl, contents, slot_eq⟩ := contains.decoded decoded
  have served : Served (deliverBatches json regex turn.deliveries (beginForwarding turn loop)
      (before ++ batch :: after)).1.events delivery :=
    deliverBatches_serves serialises before after contents slot_eq routed.2 routed.1 answered
  have cycle_eq : Pull.cycle config json regex loop turn = finishCycle config json regex turn loop
      (before ++ batch :: after) := by
    rw [receives.cycle_eq, decoded, Option.getD_some]
  obtain ⟨cycle, cycles, events, completed⟩ :=
    finishCycle_cycles config json regex turn loop (before ++ batch :: after)
  rw [← cycle_eq] at cycles
  rw [← events] at served
  have acks : AcksHandled cycle := by
    apply (loop_safe.cycle turn).acks
    rw [cycles]
    exact List.mem_append_right _ (List.mem_singleton.mpr rfl)
  refine ⟨cycle, cycles, served, acks.lists served ?_⟩
  rw [completed]
  exact deliverBatches_completed serialises _ _ _

/-- In every cycle of every run, a well-formed delivery whose email has a route and whose agent
answers 2xx is forwarded and acknowledged exactly when every element of the response decodes. -/
theorem nextHandles_iff (serialises : ∀ value, ∃ bytes, json.toVec value = .ok bytes)
    {clock : Instant} {router : ProfileRouter} {turns : List CycleTurn}
    (loop_eq : loop = Pull.run config json regex (Pull.start clock router) turns)
    (receives : Receives loop turn items) (contains : ContainsDelivery items delivery slot)
    (routed : RoutedUntil regex loop turn delivery.email slot)
    (answered : (turn.deliveries slot).answer.isSuccess = true) :
    NextHandles config json regex loop turn delivery ↔
      ∀ item ∈ items, (PendingBatch.decode item).isSome := by
  have loop_safe : LoopSafe loop := by
    rw [loop_eq]
    exact LoopSafe.run config json regex (loopSafe_start clock router) turns
  constructor
  · exact receives.decodes
  · exact receives.handles serialises loop_safe contains routed answered

/-! ## One bad element -/

/-- A system that is polled every ten seconds. -/
def polledSystem : PullSystemConfig :=
  ⟨"https://relay.org".toList, "bridge".toList, 10⟩

/-- An encoder that is right for the value `null`. -/
def nullCrate : JsonCrate where
  fromSlice _ := .ok .null
  toVec _ := .ok "null".toUTF8.toList

/-- A loop that serves one email. -/
def servingLoop : PullLoop :=
  Pull.start 0
    (updateRoute .done (ProfileRouter.new none) "bot@x.org".toList "10.0.0.7".toList 8645)

/-- A cycle in which nothing else happens and every agent answers 200. -/
def quietTurn (response : Json) : CycleTurn where
  shutdown := false
  sweepTime := 0
  sweep _ := 0
  change := id
  fetchTime := 0
  relay := some response
  deliveries _ := ⟨0, id, .inOrder _ _, 0, .status 200⟩
  ackAnswered := true
  pause := 0

/-- An element of a response, with the members of its one delivery. -/
def singleBatch (members : List (Text × Json)) : Json :=
  .object [("body".toList, .null), ("deliveries".toList, .array [.object members])]

/-- The members of a well-formed delivery. -/
def goodMembers : List (Text × Json) :=
  [("id".toList, .number (.unsigned 1)), ("email".toList, .string "bot@x.org".toList),
    ("headers".toList, .object [])]

/-- The delivery these members make. -/
def goodDelivery : BatchDelivery :=
  ⟨1, "bot@x.org".toList, .object []⟩

theorem quietTurn_receives {items : List Json} :
    Receives servingLoop (quietTurn (.object [("batches".toList, .array items)])) items :=
  ⟨rfl, rfl, List.cons_ne_nil _ _, _, rfl, rfl⟩

theorem quietTurn_routed (response : Json) (slot : Nat) :
    RoutedUntil RegexCrate.simple servingLoop (quietTurn response) "bot@x.org".toList slot :=
  ⟨show (lookup RegexCrate.simple servingLoop.router "bot@x.org".toList).1.isSome by decide,
    fun _ _ _ routed => routed⟩

theorem singleBatch_contains (after : List Json) :
    ContainsDelivery (singleBatch goodMembers :: after) goodDelivery 0 :=
  ⟨[], singleBatch goodMembers, after, [], .object goodMembers, [], rfl, rfl, rfl, rfl, rfl⟩

/-- A delivery without headers keeps the other one of the response from being handled. -/
theorem malformed_blocks :
    let items := [singleBatch goodMembers, singleBatch (goodMembers.take 2)]
    let turn := quietTurn (.object [("batches".toList, .array items)])
    Receives servingLoop turn items ∧ ContainsDelivery items goodDelivery 0 ∧
      RoutedUntil RegexCrate.simple servingLoop turn goodDelivery.email 0 ∧
      (turn.deliveries 0).answer.isSuccess = true ∧
      ¬ NextHandles polledSystem nullCrate RegexCrate.simple servingLoop turn goodDelivery := by
  refine ⟨quietTurn_receives, singleBatch_contains _, quietTurn_routed _ _, rfl, fun handles => ?_⟩
  have decodes := quietTurn_receives.decodes handles (singleBatch (goodMembers.take 2)) (by simp)
  exact absurd decodes (by decide)

/-- The members of a second delivery, whose email has no route. -/
def strayMembers : List (Text × Json) :=
  [("id".toList, .number (.unsigned 2)), ("email".toList, .string "eve@y.org".toList),
    ("headers".toList, .null)]

/-- Two batches: one of a delivery without a route, and one of two in which the second is for the
email that is served. -/
def mixedItems : List Json :=
  [singleBatch strayMembers,
    .object [("body".toList, .string "hello".toList),
      ("deliveries".toList, .array [.object strayMembers, .object goodMembers])]]

theorem mixedItems_contains : ContainsDelivery mixedItems goodDelivery 2 :=
  ⟨[singleBatch strayMembers], _, [], [.object strayMembers], .object goodMembers, [], rfl, rfl,
    rfl, rfl, rfl⟩

/-- Among several batches that all decode, a well-formed delivery is handled. -/
theorem well_formed_handled :
    NextHandles polledSystem nullCrate RegexCrate.simple servingLoop
      (quietTurn (.object [("batches".toList, .array mixedItems)])) goodDelivery := by
  have begun : servingLoop =
      Pull.run polledSystem nullCrate RegexCrate.simple (Pull.start 0 servingLoop.router) [] := rfl
  refine (nextHandles_iff (fun value => ⟨_, rfl⟩) begun quietTurn_receives mixedItems_contains
    (quietTurn_routed _ _) rfl).mpr fun item member => ?_
  rcases List.mem_cons.mp member with rfl | last
  · rfl
  · obtain rfl := List.mem_singleton.mp last
    rfl

end AimailBridge
