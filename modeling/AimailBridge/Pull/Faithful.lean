import AimailBridge.Pull.Responses

/-!
# What a forward carries

Each forward goes to the target of its own recipient, with the body of its own batch.  Its headers
are converted all at once: a delivery whose headers are all strings is sent all of them, and one
with any other member is sent none.
-/

namespace AimailBridge

open Foundation Text ProfileRouter Pull

/-- A delivery as the loop comes to it. -/
structure Visit where
  /-- The batch that contains it. -/
  batch : PendingBatch
  /-- The delivery. -/
  delivery : BatchDelivery
  /-- What other tasks and the network contribute. -/
  turn : DeliveryTurn
  /-- The state in which the loop comes to it. -/
  before : Forwarding

/-- The route table that the delivery's lookup finds. -/
def Visit.table (visit : Visit) : ProfileRouter :=
  visit.turn.change visit.before.router

/-- The visits to the deliveries of one batch. -/
def visitsOfBatch (regex : RegexCrate) (batch : PendingBatch) (body : Bytes) :
    (Nat → DeliveryTurn) → Forwarding → List BatchDelivery → List Visit
  | _, _, [] => []
  | turns, state, delivery :: deliveries =>
      ⟨batch, delivery, turns 0, state⟩ ::
        visitsOfBatch regex batch body (fun later => turns (later + 1))
          (deliver regex (turns 0) body state delivery) deliveries

/-- The visits of one cycle: a batch whose body cannot be serialised ends it. -/
def visits (json : JsonCrate) (regex : RegexCrate) :
    (Nat → DeliveryTurn) → Forwarding → List PendingBatch → List Visit
  | _, _, [] => []
  | turns, state, batch :: batches =>
      match json.toVec batch.body with
      | .error _ => []
      | .ok body =>
          visitsOfBatch regex batch body turns state batch.deliveries ++
            visits json regex (fun later => turns (later + batch.deliveries.length))
              (deliverBatch regex body turns state batch.deliveries) batches

/-- The visits of one cycle, each with what became of its delivery. -/
def outcomes (json : JsonCrate) (regex : RegexCrate) (turns : Nat → DeliveryTurn)
    (state : Forwarding) (batches : List PendingBatch) : List (Visit × DeliveryEvent) :=
  (visits json regex turns state batches).zip
    ((deliverBatches json regex turns state batches).1.events.drop state.events.length)

/-- The member is a string. -/
def isString (member : Text × Json) : Bool :=
  member.2.asStr.isSome

/-- The members of an object; anything else has none. -/
def membersOf : Json → List (Text × Json)
  | .object members => members
  | _ => []

/-- The members that are strings, as a table. -/
def stringMembers (headers : Json) : HashMap Text Text :=
  ((membersOf headers).filterMap fun member => member.2.asStr.map (member.1, ·)).foldl
    (fun table member => table.insert member.1 member.2) ∅

/-- The content type that the bridge sends itself. -/
def ownContentType : Text × Text :=
  ("content-type".toList, "application/json".toList)

/-- A header that is not the content type, in any letter case. -/
def otherHeader (header : Text × Text) : Bool :=
  !decide (sameHeader header.1 "content-type".toList)

/-- The headers a forward is due: every member that is a string, with the bridge's own content type
in the place of the delivery's. -/
def dueHeaders (headers : Json) : List (Text × Text) :=
  ((stringMembers headers).entries.map fun entry => (entry.1, entry.2)).filter otherHeader ++
    [ownContentType]

/-- The request is the delivery's own, but for its headers: it goes to the target of the recipient
and carries the body of the delivery's batch. -/
structure OwnRequest (json : JsonCrate) (regex : RegexCrate) (batches : List PendingBatch)
    (visit : Visit) (delivery : BatchDelivery) (request : Request) : Prop where
  /-- The request is for the delivery that the loop has come to. -/
  delivery : visit.delivery = delivery
  /-- The delivery is one of its batch. -/
  contained : visit.delivery ∈ visit.batch.deliveries
  /-- The batch is one of those that were fetched. -/
  fetched : visit.batch ∈ batches
  /-- The target is that of the recipient's route. -/
  target : ∃ route, (lookup regex visit.table visit.delivery.email).1 = some route ∧
    request.target = route.targetUrl
  /-- The body is that of the batch. -/
  body : json.toVec visit.batch.body = .ok request.body

/-- The headers are an object all of whose members are strings. -/
def AllStrings (headers : Json) : Prop :=
  ∃ members, headers = .object members ∧ ∀ member ∈ members, isString member = true

/-- The headers that are sent: all that are due when all members are strings, and otherwise only the
bridge's own. -/
structure SentHeaders (headers : Json) (request : Request) : Prop where
  /-- Headers that are all strings are sent. -/
  strings : AllStrings headers → request.headers.Perm (dueHeaders headers)
  /-- Other headers count as none. -/
  invalid : ¬ AllStrings headers → request.headers = [ownContentType]

/-! ## One delivery -/

section Deliveries

variable {regex : RegexCrate} {turn : DeliveryTurn} {turns : Nat → DeliveryTurn} {body : Bytes}
  {state : Forwarding} {delivery : BatchDelivery} {batch : PendingBatch}

/-- What an event says of the visit that it comes from. -/
def Records (regex : RegexCrate) (body : Bytes) (visit : Visit) : DeliveryEvent → Prop
  | .forwarded delivery request _ _ _ => visit.delivery = delivery ∧
      (∃ route, (lookup regex visit.table visit.delivery.email).1 = some route ∧
        request.target = route.targetUrl) ∧
      request.headers = requestHeaders visit.turn.order visit.delivery.headers ∧
      request.body = body
  | _ => True

theorem deliver_records : ∃ event,
    (deliver regex turn body state delivery).events = state.events ++ [event] ∧
      Records regex body ⟨batch, delivery, turn, state⟩ event := by
  simp only [deliver, forward]
  split
  · exact ⟨_, rfl, trivial⟩
  · split
    · exact ⟨_, rfl, trivial⟩
    · next route router found =>
        have routed : (lookup regex (turn.change state.router) delivery.email).1 = some route := by
          rw [found]
        split
        · exact ⟨_, rfl, rfl, ⟨route, routed, rfl⟩, rfl, rfl⟩
        · exact ⟨_, rfl, rfl, ⟨route, routed, rfl⟩, rfl, rfl⟩

/-! ## All deliveries -/

/-- The event comes from a visit to a delivery of one of these batches, and records it. -/
def Outcome (json : JsonCrate) (regex : RegexCrate) (batches : List PendingBatch) (visit : Visit)
    (event : DeliveryEvent) : Prop :=
  visit.batch ∈ batches ∧ visit.delivery ∈ visit.batch.deliveries ∧
    ∃ body, json.toVec visit.batch.body = .ok body ∧ Records regex body visit event

theorem deliverBatch_records {json : JsonCrate} {batches : List PendingBatch}
    (fetched : batch ∈ batches) (serialised : json.toVec batch.body = .ok body)
    {deliveries : List BatchDelivery} (contained : ∀ delivery ∈ deliveries,
      delivery ∈ batch.deliveries) :
    ∃ events, (deliverBatch regex body turns state deliveries).events = state.events ++ events ∧
      List.Forall₂ (Outcome json regex batches)
        (visitsOfBatch regex batch body turns state deliveries) events := by
  induction deliveries generalizing turns state with
  | nil => exact ⟨[], (List.append_nil _).symm, List.Forall₂.nil⟩
  | cons delivery deliveries induction =>
      obtain ⟨event, first, records⟩ :=
        @deliver_records regex (turns 0) body state delivery batch
      obtain ⟨events, rest, outcomes⟩ := @induction (fun later => turns (later + 1))
        (deliver regex (turns 0) body state delivery)
        fun other member => contained other (List.mem_cons_of_mem delivery member)
      refine ⟨event :: events, ?_, List.Forall₂.cons ?_ outcomes⟩
      · rw [deliverBatch, rest, first, List.append_assoc, List.singleton_append]
      · exact ⟨fetched, contained delivery List.mem_cons_self, body, serialised, records⟩

theorem deliverBatches_records {json : JsonCrate} {fetched batches : List PendingBatch}
    (part : ∀ batch ∈ batches, batch ∈ fetched) :
    ∃ events, (deliverBatches json regex turns state batches).1.events = state.events ++ events ∧
      List.Forall₂ (Outcome json regex fetched) (visits json regex turns state batches) events := by
  induction batches generalizing turns state with
  | nil => exact ⟨[], (List.append_nil _).symm, List.Forall₂.nil⟩
  | cons batch batches induction =>
      cases serialised : json.toVec batch.body with
      | error message =>
          refine ⟨[], ?_, ?_⟩
          · simp only [deliverBatches, serialised, List.append_nil]
          · simp only [visits, serialised]
            exact List.Forall₂.nil
      | ok body =>
          obtain ⟨events, front, outcomes⟩ :=
            @deliverBatch_records regex turns body state batch json fetched
              (part batch List.mem_cons_self) serialised _ fun _ member => member
          obtain ⟨later, back, rest⟩ := @induction
            (fun later => turns (later + batch.deliveries.length))
            (deliverBatch regex body turns state batch.deliveries)
            fun other member => part other (List.mem_cons_of_mem batch member)
          refine ⟨events ++ later, ?_, ?_⟩
          · simp only [deliverBatches, serialised]
            rw [back, front, List.append_assoc]
          · simp only [visits, serialised]
            exact List.rel_append outcomes rest

/-- Each outcome of a cycle is one of its visits. -/
theorem outcome_of_mem {json : JsonCrate} {batches : List PendingBatch} {visit : Visit}
    {event : DeliveryEvent} (member : (visit, event) ∈ outcomes json regex turns state batches) :
    Outcome json regex batches visit event := by
  obtain ⟨events, same, matched⟩ :=
    @deliverBatches_records regex turns state json batches batches fun _ member => member
  rw [outcomes, same, List.drop_left] at member
  exact List.forall₂_zip matched member

end Deliveries

/-! ## Headers -/

theorem mapM_asStr {members : List (Text × Json)} :
    (members.mapM fun member => member.2.asStr.map (member.1, ·)) =
      if members.all isString then
        some (members.filterMap fun member => member.2.asStr.map (member.1, ·))
      else none := by
  induction members with
  | nil => rfl
  | cons member members induction =>
      rw [List.mapM_cons, induction]
      cases found : member.2.asStr with
      | none => simp [isString, found]
      | some value =>
          cases all : members.all isString <;> simp [isString, found, all]

theorem parseHeaders_of_allStrings {headers : Json} (strings : AllStrings headers) :
    parseHeaders headers = stringMembers headers := by
  obtain ⟨members, rfl, all⟩ := strings
  rw [parseHeaders, Json.asStrings, mapM_asStr, if_pos (List.all_eq_true.mpr all)]
  rfl

theorem parseHeaders_of_not_allStrings {headers : Json} (invalid : ¬ AllStrings headers) :
    parseHeaders headers = ∅ := by
  cases headers with
  | object members =>
      have some_other : ¬ members.all isString = true := fun all =>
        invalid ⟨members, rfl, List.all_eq_true.mp all⟩
      rw [parseHeaders, Json.asStrings, mapM_asStr, if_neg some_other]
      rfl
  | null | bool _ | number _ | string _ | array _ => rfl

/-- The headers of the request are those of the table, in some order. -/
theorem requestHeaders_perm (order : IterationOrder Text Text) (headers : Json) :
    (requestHeaders order headers).Perm
      (((parseHeaders headers).entries.map fun entry => (entry.1, entry.2)).filter otherHeader ++
        [ownContentType]) := by
  have kept : ∀ entries : List (Σ _ : Text, Text),
      (entries.filterMap fun member =>
        if member.1.map Char.toLower = "content-type".toList then none
        else some (member.1, member.2)) =
      (entries.map fun entry => (entry.1, entry.2)).filter otherHeader := by
    intro entries
    induction entries with
    | nil => rfl
    | cons entry entries induction =>
        have lower : "content-type".toList.map Char.toLower = "content-type".toList := rfl
        rw [List.filterMap_cons, List.map_cons, List.filter_cons, induction]
        by_cases own : entry.1.map Char.toLower = "content-type".toList
        · simp only [own, if_true, otherHeader, sameHeader, lower, decide_true, Bool.not_true,
            Bool.false_eq_true, if_false]
        · simp only [own, if_false, otherHeader, sameHeader, lower, decide_false, Bool.not_false,
            if_true]
  rw [requestHeaders, kept]
  exact (((order.perm _).map _).filter _).append_right _

/-- Every forward is the delivery's own, and its headers are all those of the delivery or none. -/
theorem forwards_own (json : JsonCrate) (regex : RegexCrate) (turns : Nat → DeliveryTurn)
    (state : Forwarding) (batches : List PendingBatch) (visit : Visit) (delivery : BatchDelivery)
    (request : Request) (checkedAt answeredAt : Instant) (answer : Answer)
    (forwarded : (visit, DeliveryEvent.forwarded delivery request checkedAt answeredAt answer) ∈
      outcomes json regex turns state batches) :
    OwnRequest json regex batches visit delivery request ∧
      SentHeaders delivery.headers request := by
  obtain ⟨fetched, contained, body, serialised, rfl, target, headers, rfl⟩ :=
    outcome_of_mem forwarded
  have perm := requestHeaders_perm visit.turn.order visit.delivery.headers
  refine ⟨⟨rfl, contained, fetched, target, serialised⟩, fun strings => ?_, fun invalid => ?_⟩
  · rw [headers, dueHeaders, ← parseHeaders_of_allStrings strings]
    exact perm
  · rw [parseHeaders_of_not_allStrings invalid] at perm
    rw [headers]
    exact List.perm_singleton.mp perm

/-- A delivery with a signature, and with a member that is no string. -/
def mixedDelivery : BatchDelivery where
  id := 1
  email := "bot@x.org".toList
  headers := .object [("X-Webhook-Signature".toList, .string "sha256=ab".toList),
    ("X-Retries".toList, .number (.unsigned 1))]

/-- The state in which a quiet cycle comes to its first delivery. -/
def quietForwarding : Forwarding :=
  beginForwarding (quietTurn .null) servingLoop

/-- The request that is sent for it. -/
def mixedRequest : Request where
  target := (ProfileRoute.new "bot@x.org".toList "10.0.0.7".toList 8645).targetUrl
  headers := [ownContentType]
  body := "null".toUTF8.toList

theorem mixed_forwarded :
    ((⟨⟨.null, [mixedDelivery]⟩, mixedDelivery, (quietTurn .null).deliveries 0, quietForwarding⟩ :
        Visit), DeliveryEvent.forwarded mixedDelivery mixedRequest 0 0 (.status 200)) ∈
      outcomes nullCrate RegexCrate.simple (quietTurn .null).deliveries quietForwarding
        [⟨.null, [mixedDelivery]⟩] :=
  List.mem_cons_self

/-- A delivery whose headers are all strings, one of them a content type of its own. -/
def signedDelivery : BatchDelivery where
  id := 2
  email := "bot@x.org".toList
  headers := .object [("X-Webhook-Signature".toList, .string "sha256=cd".toList),
    ("Content-Type".toList, .string "text/plain".toList)]

/-- A delivery for an email without a route. -/
def strayDelivery : BatchDelivery where
  id := 3
  email := "eve@y.org".toList
  headers := .null

/-- Two batches with three deliveries. -/
def threeDeliveries : List PendingBatch :=
  [⟨.null, [mixedDelivery]⟩, ⟨.null, [strayDelivery, signedDelivery]⟩]

/-- The request that is sent for the last of them. -/
def signedRequest : Request :=
  { mixedRequest with
    headers := [("X-Webhook-Signature".toList, "sha256=cd".toList), ownContentType] }

/-- Of three deliveries, the first and the last are forwarded, each as its own. -/
theorem forwards_own_mixed :
    (∃ visit, OwnRequest nullCrate RegexCrate.simple threeDeliveries visit mixedDelivery
        mixedRequest ∧ SentHeaders mixedDelivery.headers mixedRequest) ∧
      ∃ visit, OwnRequest nullCrate RegexCrate.simple threeDeliveries visit signedDelivery
        signedRequest ∧ SentHeaders signedDelivery.headers signedRequest :=
  ⟨⟨_, forwards_own nullCrate RegexCrate.simple (quietTurn .null).deliveries quietForwarding
      threeDeliveries _ mixedDelivery mixedRequest 0 0 (.status 200) List.mem_cons_self⟩,
    ⟨_, forwards_own nullCrate RegexCrate.simple (quietTurn .null).deliveries quietForwarding
      threeDeliveries _ signedDelivery signedRequest 0 0 (.status 200)
      (List.mem_cons_of_mem _ (List.mem_cons_of_mem _ List.mem_cons_self))⟩⟩

/-- The signature is not sent, because another header is a number. -/
theorem signature_lost :
    ((⟨⟨.null, [mixedDelivery]⟩, mixedDelivery, (quietTurn .null).deliveries 0, quietForwarding⟩ :
        Visit), DeliveryEvent.forwarded mixedDelivery mixedRequest 0 0 (.status 200)) ∈
      outcomes nullCrate RegexCrate.simple (quietTurn .null).deliveries quietForwarding
        [⟨.null, [mixedDelivery]⟩] ∧
      (stringMembers mixedDelivery.headers).lookup "X-Webhook-Signature".toList =
        some "sha256=ab".toList ∧
      ¬ mixedRequest.headers.Perm (dueHeaders mixedDelivery.headers) := by
  refine ⟨mixed_forwarded, by decide, fun same => ?_⟩
  exact absurd same.length_eq (by decide)

end AimailBridge
