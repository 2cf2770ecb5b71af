import AimailBridge.Admin.Api
import AimailBridge.Foundation.Assembly
import AimailBridge.Push.Server
import AimailBridge.Push.Sites
import AimailBridge.Push.Webhook

/-!
# The assembled server

In push mode the server is the admin router merged with the push router, in pull mode the admin
router alone, and in both a layer puts the security headers on every response.  Merging leaves the
two routers apart: a path of the admin API never meets the filters and sites of the push server, and
every other path never meets the admin allowlist.
-/

namespace AimailBridge

open Foundation Text ProfileRouter Push

/-- The modes of the bridge. -/
inductive Mode
  /-- Webhooks arrive at the server. -/
  | push
  /-- Webhooks are polled. -/
  | pull
  deriving DecidableEq

/-- The mode that a configuration names. -/
def Mode.ofText (mode : Text) : Except Text Mode :=
  if mode = "push".toList then .ok .push
  else if mode ≠ "pull".toList then
    .error ("Unknown mode: ".toList ++ mode ++ " (fix aimail_bridge.toml)".toList)
  else .ok .pull

/-- The name of a mode. -/
def Mode.name : Mode → Text
  | .push => "push".toList
  | .pull => "pull".toList

/-- What the server uses of the configuration and of its surroundings when it starts.  A server is
built only for a mode that the bridge knows. -/
structure AppConfig where
  /-- What the admin API uses. -/
  admin : AdminState
  /-- The mode. -/
  mode : Mode
  /-- It is the one that the configuration names, which the admin API reads too. -/
  named : Mode.ofText admin.mode = .ok mode
  /-- What the push server uses. -/
  push : PushConfig
  /-- Header names to forward. -/
  forwardHeaders : List Text
  /-- The http crate. -/
  names : HeaderNames
  /-- The JSON crate. -/
  json : JsonCrate
  /-- The regex crate. -/
  regex : RegexCrate
  /-- What building the virtual hosts finds out. -/
  vhosts : VhostWorld

/-- The tables that the requests to the server share. -/
structure AppState where
  /-- The routes. -/
  router : ProfileRouter
  /-- The windows of the rate limiter. -/
  windows : RateWindows

/-- What answering a request sends or reads. -/
inductive HttpEffect
  /-- A single webhook is relayed. -/
  | relayed (webhook : Relayed)
  /-- An entry of a batch is sent. -/
  | entry (request : Request)
  /-- A virtual host reads a file or sends a request. -/
  | site (effect : SiteEffect)
  deriving DecidableEq

/-- A response, with what was sent and read on the way to it. -/
structure HttpOutcome where
  /-- The response. -/
  response : SiteResponse
  /-- What was sent and read. -/
  effects : List HttpEffect

/-- How the framework turns the answers of handlers and middlewares into responses. -/
structure Rendering where
  /-- A status alone. -/
  status : UInt16 → SiteResponse
  /-- An answer of the admin API. -/
  admin : AdminReply → SiteResponse
  /-- An answer to a webhook. -/
  webhook : WebhookReply → SiteResponse

/-- A request, and what the crates, the disk and the network contribute to its answer. -/
structure HttpTurn where
  /-- The request. -/
  request : SiteRequest
  /-- What the admin API meets. -/
  admin : AdminWorld
  /-- What the webhook handler meets. -/
  webhook : WebhookWorld
  /-- What the virtual hosts meet. -/
  sites : SiteWorld
  /-- The responses of the framework. -/
  render : Rendering

/-! ## Services on the shared tables -/

/-- What handling a webhook sends. -/
def Push.WebhookOutcome.effects (outcome : WebhookOutcome) : List HttpEffect :=
  outcome.relayed.toList.map .relayed ++
    (outcome.entries.filterMap EntryLog.request).map .entry

/-- A service of the admin API. -/
def adminService (turn : HttpTurn) (service : Service ProfileRouter AdminReply) :
    Service AppState HttpOutcome := fun request state =>
  let (reply, router) := service request state.router
  (⟨turn.render.admin reply, []⟩, { state with router })

/-- The handler that a reply of the push server stands for. -/
def runHandler (config : AppConfig) (turn : HttpTurn) (request : Incoming) (state : AppState) :
    PushReply → HttpOutcome × AppState
  | .status code => (⟨turn.render.status code, []⟩, state)
  | .webhook body =>
      let outcome := handleWebhook config.json config.regex
        (Push.forwardHeaders config.names config.forwardHeaders) turn.webhook state.router request
        body
      (⟨turn.render.webhook outcome.reply, outcome.effects⟩,
        { state with router := outcome.router })
  | .vhost route =>
      let (response, effects) := handleVhost turn.sites route
        { request with pathAndQuery := turn.request.pathAndQuery } request.peer
        config.push.bodyLimitMb
      (⟨response, effects.map .site⟩, state)

/-- A service of the push server. -/
def pushService (config : AppConfig) (turn : HttpTurn) (service : Service RateWindows PushReply) :
    Service AppState HttpOutcome := fun request state =>
  let (reply, windows) := service request state.windows
  runHandler config turn request { state with windows } reply

/-! ## Security headers -/

/-- The headers that every response carries. -/
def securityHeaders : List (Text × Bytes) :=
  [("x-content-type-options".toList, asciiBytes "nosniff".toList),
    ("x-frame-options".toList, asciiBytes "DENY".toList),
    ("referrer-policy".toList, asciiBytes "strict-origin-when-cross-origin".toList)]

/-- Put the security headers on a response. -/
def HttpOutcome.secured (outcome : HttpOutcome) : HttpOutcome :=
  { outcome with
    response := { outcome.response with
      headers := insertHeaders securityHeaders outcome.response.headers } }

/-- The middleware that adds the security headers. -/
def addSecurityHeaders (next : Service AppState HttpOutcome) : Service AppState HttpOutcome :=
  fun request state =>
    let (outcome, state) := next request state
    (outcome.secured, state)

/-- `apply_security_headers`. -/
def applySecurityHeaders (router : Router AppState HttpOutcome) : Router AppState HttpOutcome :=
  router.layer addSecurityHeaders

/-! ## The two routers -/

/-- The admin router on the shared tables. -/
def adminRouter (config : AppConfig) (turn : HttpTurn) : Router AppState HttpOutcome :=
  (Admin.buildAdminRouter turn.admin config.admin).transform (adminService turn)

/-- The push router on the shared tables. -/
def pushRouter (config : AppConfig) (turn : HttpTurn) : Router AppState HttpOutcome :=
  applySecurityHeaders
    ((buildPushRouter config.vhosts config.push).transform (pushService config turn))

section Paths

variable {config : AppConfig} {turn : HttpTurn} {path : Text}

/-- The paths of the admin API. -/
def isAdminPath (path : Text) : Bool :=
  [Admin.healthPath, Admin.routesPath, Admin.routePath].contains path

/-- The admin router has routes for the paths of the admin API, and for no others. -/
theorem routed_adminRouter :
    ((adminRouter config turn).routed path).isSome = isAdminPath path := by
  have health := @matchSegments_plain Admin.healthPath (by decide) path
  have routes := @matchSegments_plain Admin.routesPath (by decide) path
  have route := @matchSegments_plain Admin.routePath (by decide) path
  simp only [adminRouter, Admin.buildAdminRouter, Router.routed_transform, Router.routed_guardedBy,
    Router.routed_nestRoot, Router.routed_route, Router.routed_new, health, routes, route,
    isAdminPath]
  by_cases on_health : path = Admin.healthPath
  · simp [on_health]
  · by_cases on_routes : path = Admin.routesPath
    · simp [on_routes]
    · by_cases on_route : path = Admin.routePath <;> simp [on_health, on_routes, on_route]

/-- The paths that the push server has a route for begin with `/webhooks/`. -/
theorem segments_of_webhookCapture (captures : (webhookCapture path).isSome) :
    ∃ rest, segments path = [] :: "webhooks".toList :: rest := by
  have pattern : (segments webhookPath).map Segment.ofText =
      [.literal [], .literal "webhooks".toList, .catchAll "name".toList] := by decide
  rw [webhookCapture, pattern] at captures
  cases listed : segments path with
  | nil => simp [listed, matchSegments] at captures
  | cons first later =>
      cases later with
      | nil => simp [listed, matchSegments] at captures
      | cons second rest =>
          simp only [listed, matchSegments] at captures
          split_ifs at captures with empty webhooks
          · exact ⟨rest, by rw [empty, webhooks]⟩
          · simp at captures
          · simp at captures

theorem routed_pushRouter :
    ((pushRouter config turn).routed path).isSome = (webhookCapture path).isSome := by
  rw [pushRouter, applySecurityHeaders, Router.routed_layer, Router.routed_transform,
    webhookCapture, buildPushRouter]
  split <;> simp

/-- No webhook arrives on a path of the admin API. -/
theorem isAdminPath_of_webhookCapture (captures : (webhookCapture path).isSome) :
    isAdminPath path = false := by
  obtain ⟨rest, listed⟩ := segments_of_webhookCapture captures
  have other : ∀ own, (segments own)[1]? ≠ some "webhooks".toList → path ≠ own := by
    rintro own different rfl
    exact different (by rw [listed]; rfl)
  simp [isAdminPath, other Admin.healthPath (by decide), other Admin.routesPath (by decide),
    other Admin.routePath (by decide)]

theorem defaultFallback_adminRouter : (adminRouter config turn).defaultFallback = true := by
  rw [adminRouter, Router.defaultFallback_transform, Admin.buildAdminRouter,
    Router.defaultFallback_guardedBy]
  rfl

/-- The two routers can be merged. -/
theorem mergeable_routers (config : AppConfig) (turn : HttpTurn) :
    Router.Mergeable (adminRouter config turn) (pushRouter config turn) where
  fallbacks := Or.inl defaultFallback_adminRouter
  disjoint path := by
    by_cases captures : (webhookCapture path).isSome
    · left
      have elsewhere := isAdminPath_of_webhookCapture captures
      rw [← @routed_adminRouter config turn] at elsewhere
      exact Option.not_isSome_iff_eq_none.mp (Bool.eq_false_iff.mp elsewhere)
    · right
      rw [← @routed_pushRouter config turn] at captures
      exact Option.not_isSome_iff_eq_none.mp captures

end Paths

/-- The full app. -/
def buildApp (config : AppConfig) (turn : HttpTurn) : Router AppState HttpOutcome :=
  applySecurityHeaders <|
    match config.mode with
    | .push =>
        (adminRouter config turn).merge (pushRouter config turn) (mergeable_routers config turn)
    | .pull => adminRouter config turn

/-- What the app answers to a request. -/
def serve (config : AppConfig) (turn : HttpTurn) (state : AppState) : HttpOutcome × AppState :=
  (buildApp config turn).handle turn.request.toIncoming state

/-- The app after a history of requests. -/
def serveAll (config : AppConfig) (state : AppState) (turns : List HttpTurn) : AppState :=
  turns.foldl (fun state turn => (serve config turn state).2) state

/-! ## Where requests go -/

/-- What the admin router answers to a request. -/
def adminAnswer (config : AppConfig) (turn : HttpTurn) (state : AppState) :
    HttpOutcome × AppState :=
  adminService turn (Admin.buildAdminRouter turn.admin config.admin).handle turn.request.toIncoming
    state

/-- What the push router answers to a request. -/
def pushAnswer (config : AppConfig) (turn : HttpTurn) (state : AppState) :
    HttpOutcome × AppState :=
  pushService config turn (buildPushRouter config.vhosts config.push).handle
    turn.request.toIncoming state

/-- The answer of the one router that a request concerns. -/
def answer (config : AppConfig) (turn : HttpTurn) (state : AppState) : HttpOutcome × AppState :=
  if config.mode = .push ∧ isAdminPath turn.request.path = false then
    pushAnswer config turn state
  else
    adminAnswer config turn state

section Serving

variable {config : AppConfig} {turn : HttpTurn} {state : AppState}

theorem secured_secured (outcome : HttpOutcome) : outcome.secured.secured = outcome.secured := by
  simp only [HttpOutcome.secured]
  rw [insertHeaders_insertHeaders (by decide)]

theorem handle_applySecurityHeaders (router : Router AppState HttpOutcome) (request : Incoming) :
    (applySecurityHeaders router).handle request state =
      ((router.handle request state).1.secured, (router.handle request state).2) := by
  rw [Router.handle, applySecurityHeaders, Router.select_layer]
  rfl

theorem handle_adminRouter :
    (adminRouter config turn).handle turn.request.toIncoming state =
      adminAnswer config turn state := by
  rw [Router.handle, adminRouter, Router.select_transform]
  rfl

theorem handle_pushRouter : (pushRouter config turn).handle turn.request.toIncoming state =
    ((pushAnswer config turn state).1.secured, (pushAnswer config turn state).2) := by
  rw [pushRouter, handle_applySecurityHeaders, Router.handle, Router.select_transform]
  rfl

/-- The app answers as the one router that the request concerns, with the security headers on
top. -/
theorem serve_eq : serve config turn state =
    ((answer config turn state).1.secured, (answer config turn state).2) := by
  rw [serve, buildApp, handle_applySecurityHeaders, answer]
  cases known : config.mode with
  | pull =>
      dsimp only
      rw [handle_adminRouter, if_neg (by simp)]
  | push =>
      dsimp only
      rw [Router.handle]
      cases own : isAdminPath turn.request.path with
      | true =>
          rw [← @routed_adminRouter config turn] at own
          rw [Router.select_merge_left _ own, if_neg (by simp)]
          have same := @handle_adminRouter config turn state
          rw [Router.handle] at same
          rw [same]
      | false =>
          rw [← @routed_adminRouter config turn] at own
          have foreign := Option.not_isSome_iff_eq_none.mp (Bool.eq_false_iff.mp own)
          rw [Router.select_merge_right _ defaultFallback_adminRouter foreign, if_pos ⟨rfl, rfl⟩]
          have same := @handle_pushRouter config turn state
          rw [Router.handle] at same
          rw [same, secured_secured]

theorem answer_push (pushes : config.mode = .push)
    (foreign : isAdminPath turn.request.path = false) :
    answer config turn state = pushAnswer config turn state :=
  if_pos ⟨pushes, foreign⟩

/-- Only the push router sends or reads anything. -/
theorem push_of_effect {effect : HttpEffect}
    (sent : effect ∈ (answer config turn state).1.effects) :
    config.mode = .push ∧ isAdminPath turn.request.path = false := by
  by_contra other
  rw [answer, if_neg other] at sent
  exact absurd sent List.not_mem_nil

/-! ## The admin API in the two modes -/

/-- A response with the security headers, and otherwise as the handler made it. -/
structure Secured (inner outer : SiteResponse) : Prop where
  /-- The status is the handler's. -/
  status : outer.status = inner.status
  /-- The body is the handler's. -/
  body : outer.body = inner.body
  /-- Each security header is there exactly once, with the value of the bridge. -/
  once : ∀ name value, (name, value) ∈ securityHeaders → valuesOf name outer.headers = [value]
  /-- All other headers are the handler's, in their order. -/
  others : headersBeside (securityHeaders.map Prod.fst) outer.headers =
    headersBeside (securityHeaders.map Prod.fst) inner.headers

/-- Every response of the app carries the security headers exactly once and with the values of the
bridge, whatever the handler or a backend behind it had set, and is otherwise the handler's. -/
theorem serve_secured (config : AppConfig) (turn : HttpTurn) (state : AppState) :
    Secured (answer config turn state).1.response (serve config turn state).1.response := by
  rw [serve_eq]
  refine ⟨rfl, rfl, fun name value listed => ?_, ?_⟩
  · exact valuesOf_insertHeaders (by decide) listed _
  · exact headersBeside_insertHeaders (fun header member => List.mem_map_of_mem member) _

end Serving

end AimailBridge
