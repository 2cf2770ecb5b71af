import AimailBridge.Push.Filters
import AimailBridge.Push.Vhost

/-!
# The push server

The assembled server: the webhook route behind the filters on source addresses, and the virtual
hosts as a fallback that is attached after them.
-/

namespace AimailBridge

open Foundation Text

/-- What the push server uses of its configuration. -/
structure PushConfig where
  /-- IP/CIDR allowlist for webhook POSTs. -/
  allowedIps : List Text
  /-- IP/CIDR blacklist for webhook POSTs. -/
  blacklistIps : List Text
  /-- Requests per second and source address; 0 is no limit. -/
  rateLimit : UInt32
  /-- Largest request body, in MB. -/
  bodyLimitMb : UInt32
  /-- Virtual host sites. -/
  sites : List VhostSiteConfig

/-- How the push server disposes of a request. -/
inductive PushReply
  /-- It answers with this status itself. -/
  | status (code : UInt16)
  /-- `handle_webhook` runs on this body. -/
  | webhook (body : Bytes)
  /-- `handle_vhost` runs with this route. -/
  | vhost (route : VhostRoute)
  deriving DecidableEq

/-- The extractors of `handle_webhook`: it runs once the whole body has been read. -/
def webhookEndpoint : Service RateWindows PushReply := fun request windows =>
  match request.readBody with
  | .ok body => (.webhook body, windows)
  | .error code => (.status code, windows)

/-- The fallback that intercepts unmatched paths. -/
def vhostFallback (routes : List (Text × VhostRoute)) : Service RateWindows PushReply :=
  fun request windows =>
    match findVhost request routes with
    | some route => (.vhost route, windows)
    | none => (.status 404, windows)

/-- The path of the webhook route. -/
def webhookPath : Text :=
  "/webhooks/*name".toList

/-- Build the router for push mode. -/
def buildPushRouter (world : VhostWorld) (config : PushConfig) : Router RateWindows PushReply :=
  let router := (Router.new .status).route webhookPath
    fun _ => onMethod .status [(.post, webhookEndpoint)]
  let router := router.layer (limitBody (config.bodyLimitMb.toNat * 1024 * 1024))
  -- the layer added last runs first
  let router := router.guardedBy (blacklistCheck .status config.blacklistIps)
  let router := router.guardedBy (allowlistCheck .status config.allowedIps)
  let router := router.guardedBy (rateLimitCheck .status config.rateLimit)
  if config.sites = [] then router
  else router.setFallback (vhostFallback (buildRoutes world config.sites))

/-! ## Where requests go -/

/-- What the webhook route captures from a path. -/
def webhookCapture (path : Text) : Option (List (Text × Text)) :=
  matchSegments ((segments webhookPath).map Segment.ofText) (segments path)

/-- The three filters before a service, in the order in which they run. -/
def filtered (config : PushConfig) (next : Service RateWindows PushReply) :
    Service RateWindows PushReply :=
  guarded (rateLimitCheck .status config.rateLimit)
    (guarded (allowlistCheck .status config.allowedIps)
      (guarded (blacklistCheck .status config.blacklistIps) next))

/-- The webhook route behind its body limit. -/
def webhookService (config : PushConfig) : Service RateWindows PushReply :=
  limitBody (config.bodyLimitMb.toNat * 1024 * 1024) (onMethod .status [(.post, webhookEndpoint)])

variable {world : VhostWorld} {config : PushConfig} {path : Text}

theorem select_webhook {captured : List (Text × Text)}
    (captures : webhookCapture path = some captured) :
    (buildPushRouter world config).select path = filtered config (webhookService config) := by
  rw [webhookCapture] at captures
  rw [buildPushRouter]
  split <;> simp [Router.select, captures, filtered, webhookService]

theorem select_unmatched (unmatched : webhookCapture path = none) (sites : config.sites ≠ []) :
    (buildPushRouter world config).select path =
      vhostFallback (buildRoutes world config.sites) := by
  rw [webhookCapture] at unmatched
  rw [buildPushRouter, if_neg sites]
  simp [Router.select_setFallback, unmatched]

theorem select_notFound (unmatched : webhookCapture path = none) (sites : config.sites = []) :
    (buildPushRouter world config).select path =
      filtered config fun _ windows => (.status 404, windows) := by
  rw [webhookCapture] at unmatched
  rw [buildPushRouter, if_pos sites]
  simp only [Router.select_guardedBy, Router.select_layer, filtered]
  rw [Router.select, Router.routed_route, unmatched]
  rfl

/-! ## What the filters let through -/

/-- The reply is that a handler runs. -/
def PushReply.handles : PushReply → Bool
  | .status _ => false
  | _ => true

/-- An address passes the configured filters at this time. -/
structure PassesFilters (config : PushConfig) (windows : RateWindows) (arrival : Instant)
    (ip : IpAddr) : Prop where
  /-- No valid entry of the blacklist contains it. -/
  notBlocked : ¬ Lists config.blacklistIps ip
  /-- Some valid entry of the allowlist contains it, when one is configured. -/
  allowed : config.allowedIps ≠ [] → Lists config.allowedIps ip
  /-- The rate limiter admits it. -/
  underLimit : (checkLimit config.rateLimit arrival ip windows).1 = true

variable {request : Incoming} {windows : RateWindows} {ip : IpAddr}

theorem handles_guarded {check : Option (Check RateWindows PushReply)}
    {next : Service RateWindows PushReply} (refuses : Refuses PushReply.status check) :
    (guarded check next request windows).1.handles = true ↔ Admits check request windows ∧
      (next request (passed check request windows)).1.handles = true :=
  @guarded_iff _ _ check next request windows PushReply.status (fun reply => reply.handles = true)
    refuses fun _ => Bool.false_ne_true

/-- A handler behind the filters runs when each of them admits the request. -/
theorem handles_filtered {next : Service RateWindows PushReply} (peer : request.peer = some ip) :
    (filtered config next request windows).1.handles = true ↔
      (checkLimit config.rateLimit request.arrival ip windows).1 = true ∧
      (parseIpList config.allowedIps = [] ∨ Lists config.allowedIps ip) ∧
      ¬ Lists config.blacklistIps ip ∧
      (next request (checkLimit config.rateLimit request.arrival ip windows).2).1.handles =
        true := by
  rw [filtered, handles_guarded (refuses_rateLimitCheck _),
    handles_guarded (refuses_allowlistCheck _), handles_guarded (refuses_blacklistCheck _),
    passed_blacklistCheck peer, passed_allowlistCheck peer, passed_rateLimitCheck peer,
    admits_rateLimitCheck peer, admits_allowlistCheck peer, admits_blacklistCheck peer]

/-- The webhook route runs its handler on a `POST` whose body arrives within the limit. -/
theorem webhookService_handles : (webhookService config request windows).1.handles = true ↔
    request.method = .post ∧ request.body.length ≤ config.bodyLimitMb.toNat * 1024 * 1024 ∧
      request.interrupted = false := by
  rw [webhookService, limitBody, onMethod_singleton _ (by decide), webhookEndpoint,
    Incoming.readBody]
  by_cases post : request.method = .post
  · by_cases long : config.bodyLimitMb.toNat * 1024 * 1024 < request.body.length
    · simp [post, long, PushReply.handles, Nat.not_le.mpr long]
    · cases broken : request.interrupted <;>
        simp [post, long, PushReply.handles, Nat.not_lt.mp long]
  · simp [post, PushReply.handles]

theorem webhookService_windows (request : Incoming) (windows : RateWindows) :
    (webhookService config request windows).2 = windows := by
  rw [webhookService, limitBody, onMethod_singleton _ (by decide), webhookEndpoint]
  split
  · split <;> rfl
  · rfl

/-- The rate limiter counts every request to the webhook route. -/
theorem windows_webhook {captured : List (Text × Text)}
    (captures : webhookCapture request.path = some captured) (peer : request.peer = some ip) :
    ((buildPushRouter world config).handle request windows).2 =
      (checkLimit config.rateLimit request.arrival ip windows).2 := by
  rw [Router.handle, select_webhook captures, filtered, guarded_state, passed_rateLimitCheck peer]
  intro windows
  rw [guarded_state, passed_allowlistCheck peer]
  intro windows
  rw [guarded_state, passed_blacklistCheck peer]
  exact webhookService_windows request

end AimailBridge
