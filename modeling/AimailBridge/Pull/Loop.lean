import AimailBridge.Foundation.Http
import AimailBridge.Router.Table

/-!
# The pull loop

Each cycle drops the stale entries of the dedup cache, fetches pending deliveries from the relay,
forwards those that are not in the cache, and acknowledges what was forwarded.  What other tasks,
the network and the clock do in between is an input of the run; the log of a run records every
decision.
-/

namespace AimailBridge

open Foundation Text ProfileRouter

/-- How long a forwarded delivery stays in the dedup cache: 7200 s. -/
def seenTtl : Nat := 7200 * 1000000000

/-- What the pull loop uses of one system's configuration. -/
structure PullSystemConfig where
  /-- Base URL of the relay. -/
  amailUrl : Text
  /-- Identity sent with every request. -/
  systemId : Text
  /-- Seconds between two cycles. -/
  pollIntervalSec : UInt64

/-- A delivery of a pending batch. -/
structure BatchDelivery where
  /-- Id, never reused by the relay. -/
  id : Int64
  /-- Recipient. -/
  email : Text
  /-- Headers to forward. -/
  headers : Json

/-- A pending batch: deliveries that share a body. -/
structure PendingBatch where
  /-- The shared body. -/
  body : Json
  /-- The deliveries. -/
  deliveries : List BatchDelivery

/-! ## Decoding the relay's response -/

namespace BatchDelivery

/-- The delivery of three decoded fields. -/
def ofFields (id email headers : Option Json) : Option BatchDelivery :=
  (id.bind Json.asI64).bind fun id =>
    (email.bind Json.asStr).bind fun email => headers.map fun headers => { id, email, headers }

/-- Decode a delivery, from an object or from an array of its fields. -/
def decode : Json → Option BatchDelivery
  | .object members =>
      ofFields (members.lookup "id".toList) (members.lookup "email".toList)
        (members.lookup "headers".toList)
  | .array [id, email, headers] => ofFields (some id) (some email) (some headers)
  | _ => none

end BatchDelivery

namespace PendingBatch

/-- The batch of two decoded fields. -/
def ofFields (body deliveries : Option Json) : Option PendingBatch :=
  body.bind fun body =>
    ((deliveries.bind Json.asArray).bind (·.mapM BatchDelivery.decode)).map fun deliveries =>
      { body, deliveries }

/-- Decode a batch, from an object or from an array of its fields. -/
def decode : Json → Option PendingBatch
  | .object members =>
      ofFields (members.lookup "body".toList) (members.lookup "deliveries".toList)
  | .array [body, deliveries] => ofFields (some body) (some deliveries)
  | _ => none

end PendingBatch

namespace Pull

/-- The request for pending deliveries. -/
structure PollRequest where
  /-- URL. -/
  url : Text
  /-- Identity header. -/
  identity : Text
  /-- The domains asked for. -/
  filter : Finset Text
  /-- The most deliveries asked for. -/
  limit : Nat

/-- The part of an email after its last `@`. -/
def domain (email : Text) : Text :=
  match rsplitOnce '@' email with
  | some (_, domain) => domain
  | none => email

/-- The request `fetch_pending` sends, if any email is known. -/
def pollRequest (config : PullSystemConfig) (router : ProfileRouter) : Option PollRequest :=
  if listEmails router = [] then none
  else
    some { url := trimEndMatches '/' config.amailUrl ++ "/api/v1/admin/pending".toList
           identity := config.systemId
           filter := ((listEmails router).map domain).toFinset
           limit := 50 }

/-- Fetch the pending batches; `relay` is the body of a successful response. -/
def fetchPending (router : ProfileRouter) (relay : Option Json) : Option (List PendingBatch) :=
  if listEmails router = [] then some []
  else
    relay.map fun body =>
      (((body.index "batches".toList).asArray).bind (·.mapM PendingBatch.decode)).getD []

/-- The request that acknowledges deliveries. -/
structure AckRequest where
  /-- URL. -/
  url : Text
  /-- Identity header. -/
  identity : Text
  /-- The acknowledged ids. -/
  ids : List Int64

/-- The request `ack_deliveries` sends. -/
def ackRequest (config : PullSystemConfig) (ids : List Int64) : AckRequest where
  url := trimEndMatches '/' config.amailUrl ++ "/api/v1/admin/pending/ack".toList
  identity := config.systemId
  ids := ids

/-! ## Forwarding -/

/-- The headers of a delivery as a table of strings; anything else counts as none. -/
def parseHeaders (headers : Json) : HashMap Text Text :=
  ((headers.asStrings).getD []).foldl (fun table member => table.insert member.1 member.2) ∅

/-- The headers of the forward request: those of the delivery but its content type, and the bridge's
own. -/
def requestHeaders (order : IterationOrder Text Text) (headers : Json) : List (Text × Text) :=
  ((order.walk (parseHeaders headers).entries).filterMap fun member =>
    if member.1.map Char.toLower = "content-type".toList then none
    else some (member.1, member.2)) ++ [("content-type".toList, "application/json".toList)]

/-- What other tasks and the network contribute while one delivery is handled. -/
structure DeliveryTurn where
  /-- Time until the dedup check. -/
  wait : Nat
  /-- What other tasks do to the router before the lookup. -/
  change : ProfileRouter → ProfileRouter
  /-- The order in which the headers are walked. -/
  order : IterationOrder Text Text
  /-- Time from the dedup check to the answer. -/
  latency : Nat
  /-- How the forward request ends. -/
  answer : Answer

/-- What became of one fetched delivery. -/
inductive DeliveryEvent
  /-- It was found in the dedup cache. -/
  | recognised (delivery : BatchDelivery) (checkedAt : Instant)
  /-- Its email has no route. -/
  | unrouted (delivery : BatchDelivery) (checkedAt : Instant)
  /-- It was forwarded after the check, with this answer. -/
  | forwarded (delivery : BatchDelivery) (request : Request) (checkedAt answeredAt : Instant)
      (answer : Answer)

/-- The loop in the middle of a cycle. -/
structure Forwarding where
  /-- The last reading of the clock. -/
  clock : Instant
  /-- The route table. -/
  router : ProfileRouter
  /-- The dedup cache. -/
  seen : HashMap Int64 Instant
  /-- The ids to acknowledge. -/
  ackIds : List Int64
  /-- Their recipients. -/
  forwardedEmails : List Text
  /-- What became of the deliveries so far. -/
  events : List DeliveryEvent

/-- Whether the dedup cache has an entry for an id that is not stale. -/
def remembers (state : Forwarding) (id : Int64) : Bool :=
  match state.seen.lookup id with
  | some t => state.clock - t < seenTtl
  | none => false

/-- Put a delivery on the list of those to acknowledge. -/
def acknowledge (state : Forwarding) (delivery : BatchDelivery) : Forwarding :=
  { state with
    ackIds := state.ackIds ++ [delivery.id]
    forwardedEmails := state.forwardedEmails ++ [delivery.email] }

/-- Record what became of a delivery. -/
def record (state : Forwarding) (event : DeliveryEvent) : Forwarding :=
  { state with events := state.events ++ [event] }

/-- Handle one delivery after its dedup check failed. -/
def forward (regex : RegexCrate) (turn : DeliveryTurn) (body : Bytes) (state : Forwarding)
    (delivery : BatchDelivery) : Forwarding :=
  match lookup regex state.router delivery.email with
  | (none, router) => record { state with router } (.unrouted delivery state.clock)
  | (some route, router) =>
      let request : Request := {
        target := route.targetUrl
        headers := requestHeaders turn.order delivery.headers
        body := body }
      let answeredAt := state.clock + turn.latency
      let after := record { state with clock := answeredAt, router }
        (.forwarded delivery request state.clock answeredAt turn.answer)
      if turn.answer.isSuccess then
        acknowledge { after with seen := after.seen.insert delivery.id answeredAt } delivery
      else after

/-- Handle one delivery. -/
def deliver (regex : RegexCrate) (turn : DeliveryTurn) (body : Bytes) (state : Forwarding)
    (delivery : BatchDelivery) : Forwarding :=
  let state := { state with
    clock := state.clock + turn.wait
    router := turn.change state.router }
  if remembers state delivery.id then
    acknowledge (record state (.recognised delivery state.clock)) delivery
  else forward regex turn body state delivery

/-- Handle the deliveries of a batch in order, each in its own turn. -/
def deliverBatch (regex : RegexCrate) (body : Bytes) :
    (Nat → DeliveryTurn) → Forwarding → List BatchDelivery → Forwarding
  | _, state, [] => state
  | turns, state, delivery :: deliveries =>
      deliverBatch regex body (fun later => turns (later + 1))
        (deliver regex (turns 0) body state delivery) deliveries

/-- Handle the batches in order; a body that cannot be serialised ends the loop. -/
def deliverBatches (json : JsonCrate) (regex : RegexCrate) :
    (Nat → DeliveryTurn) → Forwarding → List PendingBatch → Forwarding × Bool
  | _, state, [] => (state, true)
  | turns, state, batch :: batches =>
      match json.toVec batch.body with
      | .error _ => (state, false)
      | .ok body =>
          deliverBatches json regex (fun later => turns (later + batch.deliveries.length))
            (deliverBatch regex body turns state batch.deliveries) batches

/-! ## Cycles -/

/-- What other tasks, the relay and the clock contribute to one cycle. -/
structure CycleTurn where
  /-- Whether shutdown has been requested. -/
  shutdown : Bool
  /-- Time the sweep of the cache takes, and when in it each entry is looked at. -/
  sweepTime : Nat
  /-- The time into the sweep at which an entry is looked at. -/
  sweep : Int64 → Nat
  /-- What other tasks do to the router before the fetch. -/
  change : ProfileRouter → ProfileRouter
  /-- Time the fetch takes. -/
  fetchTime : Nat
  /-- Body of the relay's response, unless the fetch fails. -/
  relay : Option Json
  /-- What happens while each delivery is handled. -/
  deliveries : Nat → DeliveryTurn
  /-- Whether the acknowledgement is answered. -/
  ackAnswered : Bool
  /-- Time from the last delivery to the next cycle, besides the sleep. -/
  pause : Nat

/-- What one cycle did. -/
structure CycleLog where
  /-- The request for pending deliveries. -/
  poll : Option PollRequest
  /-- The batches fetched. -/
  fetched : List PendingBatch
  /-- What became of the deliveries, in order. -/
  events : List DeliveryEvent
  /-- Whether all batches were handled. -/
  completed : Bool
  /-- The acknowledgement sent at the end of the cycle. -/
  ack : Option AckRequest

/-- The loop between two cycles. -/
structure PullLoop where
  /-- The last reading of the clock. -/
  clock : Instant
  /-- The route table. -/
  router : ProfileRouter
  /-- The dedup cache. -/
  seen : HashMap Int64 Instant
  /-- Fetches that have failed in a row. -/
  consecutiveFailures : UInt32
  /-- Acknowledgements that have failed in a row. -/
  consecutiveAckFailures : UInt32
  /-- Whether the loop has returned. -/
  stopped : Bool
  /-- The cycles so far. -/
  cycles : List CycleLog

/-- The loop before its first cycle. -/
def start (clock : Instant) (router : ProfileRouter) : PullLoop where
  clock := clock
  router := router
  seen := ∅
  consecutiveFailures := 0
  consecutiveAckFailures := 0
  stopped := false
  cycles := []

/-- The longest delay after a failed fetch, in seconds. -/
def maxBackoff : UInt64 := 300

/-- The delay after a failed fetch, in seconds. -/
def backoff (pollInterval : UInt64) (failures : UInt32) : UInt64 :=
  min (pollInterval * 2 ^ (min failures 6).toNat) maxBackoff

/-- Drop the stale entries of the cache. -/
def sweepSeen (turn : CycleTurn) (loop : PullLoop) : HashMap Int64 Instant :=
  loop.seen.retain fun id t => loop.clock + min (turn.sweep id) turn.sweepTime - t < seenTtl

/-- Nanoseconds of a number of seconds. -/
def seconds (n : UInt64) : Nat :=
  n.toNat * 1000000000

/-- The state in which the deliveries of a cycle are handled. -/
def beginForwarding (turn : CycleTurn) (loop : PullLoop) : Forwarding where
  clock := loop.clock + turn.sweepTime + turn.fetchTime
  router := turn.change loop.router
  seen := sweepSeen turn loop
  ackIds := []
  forwardedEmails := []
  events := []

/-- Handle the fetched batches and acknowledge what was forwarded. -/
def finishCycle (config : PullSystemConfig) (json : JsonCrate) (regex : RegexCrate)
    (turn : CycleTurn) (loop : PullLoop) (fetched : List PendingBatch) : PullLoop :=
  let begun := beginForwarding turn loop
  let (state, completed) := deliverBatches json regex turn.deliveries begun fetched
  let ack :=
    if completed && !state.ackIds.isEmpty then some (ackRequest config state.ackIds) else none
  { clock := state.clock + turn.pause + seconds config.pollIntervalSec
    router := state.router
    seen := state.seen
    consecutiveFailures := 0
    consecutiveAckFailures :=
      if ack.isNone then loop.consecutiveAckFailures
      else if turn.ackAnswered then 0
      else loop.consecutiveAckFailures + 1
    stopped := !completed
    cycles := loop.cycles ++
      [{ poll := pollRequest config begun.router, fetched, events := state.events, completed,
         ack }] }

/-- One cycle of the loop. -/
def cycle (config : PullSystemConfig) (json : JsonCrate) (regex : RegexCrate) (loop : PullLoop)
    (turn : CycleTurn) : PullLoop :=
  if loop.stopped then loop
  else if turn.shutdown then { loop with stopped := true }
  else
    match fetchPending (turn.change loop.router) turn.relay with
    | some fetched => finishCycle config json regex turn loop fetched
    | none =>
        { loop with
          clock := loop.clock + turn.sweepTime + turn.fetchTime + turn.pause +
            seconds (backoff config.pollIntervalSec (loop.consecutiveFailures + 1))
          router := turn.change loop.router
          seen := sweepSeen turn loop
          consecutiveFailures := loop.consecutiveFailures + 1
          cycles := loop.cycles ++
            [{ poll := pollRequest config (turn.change loop.router), fetched := [], events := [],
               completed := true, ack := none }] }

/-- A run of the loop. -/
def run (config : PullSystemConfig) (json : JsonCrate) (regex : RegexCrate) (loop : PullLoop)
    (turns : List CycleTurn) : PullLoop :=
  turns.foldl (cycle config json regex) loop

end Pull
end AimailBridge
