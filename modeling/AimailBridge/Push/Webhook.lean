import AimailBridge.Foundation.Headers
import AimailBridge.Push.Batch

/-!
# Webhooks

`handle_webhook` takes a payload with a `signatures` array for a batch, and relays any other payload
to the agent of the email that a header names.  A single webhook keeps its body and the headers that
the configuration lists, while a batch is written anew.
-/

namespace AimailBridge

open Foundation Text ProfileRouter

namespace Push

/-- A single webhook as the HTTP client is given it. -/
structure Relayed where
  /-- URL it is posted to. -/
  target : Text
  /-- Headers, their names in lower case. -/
  headers : List (Text × Bytes)
  /-- Body. -/
  body : Bytes
  deriving DecidableEq

/-- How a relayed webhook ends, as the HTTP client reports it after following redirects. -/
inductive Delivery
  /-- A response: its status, and its body unless reading that fails. -/
  | response (status : UInt16) (body : Option Bytes)
  /-- No response, with the text of the error. -/
  | failed (error : Text)
  deriving DecidableEq

/-- What the webhook handler answers. -/
inductive WebhookReply
  /-- A status with a text of its own. -/
  | text (status : UInt16) (text : Text)
  /-- The status and the body of an agent. -/
  | relayed (status : UInt16) (body : Bytes)
  deriving DecidableEq

/-- What the network and other tasks contribute to one webhook. -/
structure WebhookWorld where
  /-- How a single webhook ends. -/
  deliver : Relayed → Delivery
  /-- What happens around the entries of a batch. -/
  turns : Nat → EntryTurn

/-- What came of one webhook. -/
structure WebhookOutcome where
  /-- The answer to the sender. -/
  reply : WebhookReply
  /-- The router afterwards. -/
  router : ProfileRouter
  /-- The single webhook, if the HTTP client was given one. -/
  relayed : Option Relayed
  /-- What became of the entries of a batch. -/
  entries : List EntryLog

/-- Whether a payload lists recipients: it is JSON with a `signatures` array that is not empty. -/
def listsSignatures (json : JsonCrate) (body : Bytes) : Bool :=
  match json.fromSlice body with
  | .error _ => false
  | .ok value =>
      (((value.get? "signatures".toList).bind Json.asArray).map fun sigs => ! sigs.isEmpty).getD
        false

/-- The email that a single webhook names: the legacy header counts when there is no other. -/
def webhookEmail (request : Incoming) : Option Text :=
  ((request.header "x-aimail-email".toList).or (request.header "x-amail-email".toList)).bind toStr

/-- The headers of a single webhook that pass the whitelist. -/
def relayedHeaders (forward : List Text) (request : Incoming) : List (Text × Bytes) :=
  forward.foldl (fun headers name =>
    match request.header name with
    | some value => insertHeader name value headers
    | none => headers) []

/-- The request that is made of a single webhook for a route. -/
def relayedTo (forward : List Text) (request : Incoming) (body : Bytes) (route : ProfileRoute) :
    Relayed where
  target := route.targetUrl
  headers := relayedHeaders forward request
  body := body

/-- Relay a single webhook to the agent of its email. -/
def handleSingle (regex : RegexCrate) (forward : List Text) (world : WebhookWorld)
    (router : ProfileRouter) (request : Incoming) (body : Bytes) : WebhookOutcome :=
  match webhookEmail request with
  | none => ⟨.text 400 "Missing X-AIMail-Email header".toList, router, none, []⟩
  | some email =>
      match lookup regex router email with
      | (none, router) => ⟨.text 502 ("No route for ".toList ++ email), router, none, []⟩
      | (some route, router) =>
          let relayed := relayedTo forward request body route
          match world.deliver relayed with
          | .response status content =>
              ⟨.relayed status (content.getD []), router, some relayed, []⟩
          | .failed error =>
              ⟨.text 502 ("Forward failed: ".toList ++ error), router, some relayed, []⟩

/-- Transparent webhook proxy. -/
def handleWebhook (json : JsonCrate) (regex : RegexCrate) (forward : List Text)
    (world : WebhookWorld) (router : ProfileRouter) (request : Incoming) (body : Bytes) :
    WebhookOutcome :=
  -- a list of recipients decides, whatever the headers say
  if listsSignatures json body then
    let (response, router, entries) :=
      handleBatchWebhook json regex forward world.turns router body
    ⟨.text response.status response.text, router, none, entries⟩
  else handleSingle regex forward world router request body

end Push

open Push

/-! ## Headers of a single webhook -/

section Headers

variable {forward : List Text} {request : Incoming} {name : Text} {headers : List (Text × Bytes)}

/-- One forward name puts the first value of its header in place of what was there. -/
theorem valuesOf_forwarded (name other : Text) (headers : List (Text × Bytes)) :
    valuesOf name
        (match request.header other with
        | some value => insertHeader other value headers
        | none => headers) =
      if name = other ∧ (request.header name).isSome then (request.header name).toList
      else valuesOf name headers := by
  by_cases same : name = other
  · subst same
    cases request.header name with
    | some value => simp [valuesOf_insertHeader_self]
    | none => simp
  · cases request.header other with
    | some value => simp [same, valuesOf_insertHeader_of_ne same]
    | none => simp [same]

/-- A relayed webhook has the headers on the whitelist that the request has, each with its first
value, and no others. -/
theorem valuesOf_relayedHeaders (forward : List Text) (request : Incoming) (name : Text) :
    valuesOf name (relayedHeaders forward request) =
      if forward.contains name then (request.header name).toList else [] := by
  have loop : ∀ headers : List (Text × Bytes),
      valuesOf name (forward.foldl (fun headers name =>
          match request.header name with
          | some value => insertHeader name value headers
          | none => headers) headers) =
        if forward.contains name ∧ (request.header name).isSome then (request.header name).toList
        else valuesOf name headers := by
    induction forward with
    | nil => simp
    | cons other forward induction =>
        intro headers
        rw [List.foldl_cons, induction, valuesOf_forwarded]
        by_cases same : name = other
        · subst same
          cases request.header name <;> simp
        · simp [same]
  rw [relayedHeaders, loop]
  cases request.header name <;> simp [valuesOf]

end Headers

/-! ## Single webhooks -/

/-- What the sender of a single webhook is answered when it has been relayed: the status and the
body that the client reports, without headers, and an empty body for one that breaks off. -/
def replyTo : Delivery → WebhookReply
  | .response status content => .relayed status (content.getD [])
  | .failed error => .text 502 ("Forward failed: ".toList ++ error)

/-- A single webhook goes where its email is routed, with its own bytes and with those of its
headers that the configuration names. -/
structure Relays (names : HeaderNames) (config : List Text) (regex : RegexCrate)
    (router : ProfileRouter) (request : Incoming) (body : Bytes) (relayed : Relayed) : Prop where
  /-- The target is that of the route of the email. -/
  target : ∃ email route, webhookEmail request = some email ∧
    (lookup regex router email).1 = some route ∧ relayed.target = route.targetUrl
  /-- The body is relayed byte for byte. -/
  body : relayed.body = body
  /-- A configured header is relayed once, with its first value, if the webhook has it. -/
  configured : ∀ raw ∈ config, ∀ name, names.fromBytes raw = some name →
    valuesOf name relayed.headers = (request.header name).toList
  /-- No other header is relayed. -/
  others : ∀ name, (∀ raw ∈ config, names.fromBytes raw ≠ some name) →
    valuesOf name relayed.headers = []

section Single

variable {names : HeaderNames} {config forward : List Text} {json : JsonCrate}
  {regex : RegexCrate} {world : WebhookWorld} {router : ProfileRouter} {request : Incoming}
  {body : Bytes} {relayed : Relayed}

theorem handleWebhook_of_single (single : listsSignatures json body = false) :
    handleWebhook json regex forward world router request body =
      handleSingle regex forward world router request body := by
  rw [handleWebhook, single]
  rfl

theorem contains_forwardHeaders {name : Text} : (forwardHeaders names config).contains name = true ↔
    ∃ raw ∈ config, names.fromBytes raw = some name := by
  rw [List.contains_iff_mem, forwardHeaders, List.mem_filterMap]

/-- A single webhook names no email, names one without a route, or is relayed. -/
theorem handleSingle_cases (regex : RegexCrate) (forward : List Text) (world : WebhookWorld)
    (router : ProfileRouter) (request : Incoming) (body : Bytes) :
    (webhookEmail request = none ∧ handleSingle regex forward world router request body =
      ⟨.text 400 "Missing X-AIMail-Email header".toList, router, none, []⟩) ∨
    (∃ email, webhookEmail request = some email ∧ (lookup regex router email).1 = none ∧
      handleSingle regex forward world router request body =
        ⟨.text 502 ("No route for ".toList ++ email), (lookup regex router email).2,
          none, []⟩) ∨
    ∃ email route, webhookEmail request = some email ∧
      (lookup regex router email).1 = some route ∧
      handleSingle regex forward world router request body =
        ⟨replyTo (world.deliver (relayedTo forward request body route)),
          (lookup regex router email).2, some (relayedTo forward request body route), []⟩ := by
  rw [handleSingle]
  cases webhookEmail request with
  | none => exact Or.inl ⟨rfl, rfl⟩
  | some email =>
      right
      dsimp only
      cases looked : lookup regex router email with
      | mk found left =>
          cases found with
          | none => exact Or.inl ⟨email, rfl, by rw [looked], by rw [looked]⟩
          | some route =>
              refine Or.inr ⟨email, route, rfl, by rw [looked], ?_⟩
              rw [looked]
              dsimp only
              cases world.deliver (relayedTo forward request body route) <;> rfl

/-- What is relayed is the webhook. -/
theorem relays_relayedTo {email : Text} {route : ProfileRoute}
    (named : webhookEmail request = some email)
    (routed : (lookup regex router email).1 = some route) :
    Relays names config regex router request body
      (relayedTo (forwardHeaders names config) request body route) := by
  refine ⟨⟨email, route, named, routed, rfl⟩, rfl, fun raw listed name read => ?_,
    fun name unlisted => ?_⟩
  · exact (valuesOf_relayedHeaders _ _ _).trans
      (if_pos (contains_forwardHeaders.mpr ⟨raw, listed, read⟩))
  · refine (valuesOf_relayedHeaders _ _ _).trans (if_neg fun listed => ?_)
    obtain ⟨raw, member, read⟩ := contains_forwardHeaders.mp listed
    exact unlisted raw member read

/-- A webhook that lists no recipients is relayed transparently: the HTTP client is given it exactly
when its email is named and routed, as it is and for one agent, and what the client reports is
answered.  Otherwise the sender is told what is missing. -/
theorem singleWebhook_relayed (names : HeaderNames) (config : List Text) (json : JsonCrate)
    (regex : RegexCrate) (world : WebhookWorld) (router : ProfileRouter) (request : Incoming)
    (body : Bytes)
    (single : listsSignatures json body = false) :
    let outcome := handleWebhook json regex (forwardHeaders names config) world router request body
    (outcome.relayed.isSome ↔ ∃ email, webhookEmail request = some email ∧
      (lookup regex router email).1.isSome) ∧
    (∀ relayed, outcome.relayed = some relayed →
      Relays names config regex router request body relayed ∧
        outcome.reply = replyTo (world.deliver relayed)) ∧
    (webhookEmail request = none →
      outcome.reply = .text 400 "Missing X-AIMail-Email header".toList) ∧
    (∀ email, webhookEmail request = some email → (lookup regex router email).1 = none →
      outcome.reply = .text 502 ("No route for ".toList ++ email)) ∧
    outcome.entries = [] := by
  dsimp only
  rw [handleWebhook_of_single single]
  rcases handleSingle_cases regex (forwardHeaders names config) world router request body with
    ⟨unnamed, outcome⟩ | ⟨email, named, unrouted, outcome⟩ | ⟨email, route, named, routed, outcome⟩
  · rw [outcome]
    refine ⟨by simp [unnamed], fun _ sent => ?_, fun _ => rfl, fun email named => ?_, rfl⟩
    · cases sent
    · cases unnamed.symm.trans named
  · rw [outcome]
    refine ⟨by simp [named, unrouted], fun _ sent => ?_, fun unnamed => ?_, fun other same _ => ?_,
      rfl⟩
    · cases sent
    · cases named.symm.trans unnamed
    · obtain rfl := Option.some.inj (named.symm.trans same)
      rfl
  · rw [outcome]
    refine ⟨by simp [named, routed], fun relayed sent => ?_, fun unnamed => ?_,
      fun other same unrouted => ?_, rfl⟩
    · obtain rfl := Option.some.inj sent
      exact ⟨relays_relayedTo named routed, rfl⟩
    · cases named.symm.trans unnamed
    · obtain rfl := Option.some.inj (named.symm.trans same)
      cases routed.symm.trans unrouted

/-- An agent that takes every webhook. -/
def acceptingAgent : WebhookWorld where
  deliver _ := .response 200 (some (asciiBytes "ok".toList))
  turns _ := ⟨id, .status 200⟩

/-- A webhook for one recipient. -/
def sampleWebhook : Incoming where
  method := .post
  path := "/webhooks/amail-inbound".toList
  uriHost := none
  headers := [("host".toList, asciiBytes "mail.example.com".toList),
    ("x-aimail-email".toList, asciiBytes "bot@x.org".toList),
    ("x-webhook-signature".toList, asciiBytes "sha256=ab".toList)]
  body := asciiBytes "\x7b\x7d".toList
  interrupted := false
  peer := none
  bodyLimit := none
  arrival := 0

theorem singleWebhook_relayed_sample : ∃ relayed,
    Relays HeaderNames.ascii defaultForwardHeaders RegexCrate.simple sampleRouter sampleWebhook
      sampleWebhook.body relayed := by
  have single : listsSignatures sampleJson sampleWebhook.body = false := by decide
  obtain ⟨sends, relays, _⟩ := singleWebhook_relayed HeaderNames.ascii defaultForwardHeaders
    sampleJson RegexCrate.simple acceptingAgent sampleRouter sampleWebhook sampleWebhook.body single
  obtain ⟨relayed, sent⟩ := Option.isSome_iff_exists.mp
    (sends.mpr ⟨"bot@x.org".toList, by decide, rfl⟩)
  exact ⟨relayed, (relays relayed sent).1⟩

end Single

end AimailBridge
