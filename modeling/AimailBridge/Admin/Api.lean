import AimailBridge.Foundation.Routing
import AimailBridge.Router.Generated
import AimailBridge.Security.Cidr

/-!
# The admin API

Health, and the management of routes, behind an allowlist of source addresses.
-/

namespace AimailBridge

open Foundation Text

/-- Body of a request for a new route. -/
structure CreateRouteBody where
  /-- Email. -/
  email : Text
  /-- Host, or URL. -/
  host : Text
  /-- Port. -/
  port : UInt16
  deriving DecidableEq

/-- A route as it is listed. -/
structure RouteEntry where
  /-- Email. -/
  email : Text
  /-- Host. -/
  host : Text
  /-- Port. -/
  port : UInt16
  deriving DecidableEq

/-- A response of the admin API. -/
inductive AdminReply
  /-- A status without a body of its own. -/
  | status (code : UInt16)
  /-- A status with a text. -/
  | text (code : UInt16) (body : Text)
  /-- The server is up. -/
  | health (uptimeSecs : Nat) (version : Text)
  /-- The routes. -/
  | routes (entries : List RouteEntry)
  /-- A route has been created, for webhooks at this URL. -/
  | created (webhookUrl : Text)
  deriving DecidableEq

/-- What the admin API uses of the configuration, and what it notes at its start. -/
structure AdminState where
  /-- Mode. -/
  mode : Text
  /-- Name of the host. -/
  hostname : Option Text
  /-- Address that the server binds. -/
  bind : Text
  /-- IP/CIDR allowlist for admin endpoints. -/
  adminAllowedIps : List Text
  /-- Time of the start. -/
  startup : Instant
  /-- Version of the build. -/
  version : Text

/-- The crates and the disk, as the handlers meet them. -/
structure AdminWorld where
  /-- Whether a content type announces JSON. -/
  jsonContentType : Option Bytes → Bool
  /-- `serde_json::from_slice`, with the status of its failure. -/
  readRoute : Bytes → Except UInt16 CreateRouteBody
  /-- The decoding of a captured path segment. -/
  percentDecode : Text → Option Text
  /-- How a write of the routes file ends that begins at this time. -/
  writeAt : Instant → DiskWrite

/-! ## Extractors -/

/-- `Json<CreateRouteBody>`, or the status of the rejection. -/
def extractRoute (world : AdminWorld) (request : Incoming) : Except UInt16 CreateRouteBody :=
  if world.jsonContentType (request.header "content-type".toList) then
    request.readBody.bind world.readRoute
  else
    .error 415

/-- `Path<String>`, or the status of the rejection: there must be exactly one capture. -/
def extractPath (world : AdminWorld) (captured : List (Text × Text)) : Except UInt16 Text :=
  match captured.mapM fun (_, value) => world.percentDecode value with
  | none => .error 400
  | some [value] => .ok value
  | some _ => .error 500

/-! ## Handlers -/

namespace Admin

/-- `GET /health`. -/
def health (state : AdminState) : Service ProfileRouter AdminReply := fun request router =>
  (.health ((request.arrival - state.startup) / 1000000000) state.version, router)

/-- `GET /api/v1/routes`. -/
def listRoutes : Service ProfileRouter AdminReply := fun _ router =>
  (.routes ((ProfileRouter.listRoutes router).map fun r => ⟨r.email, r.host, r.port⟩), router)

/-- Where the routes' webhooks arrive; only push mode has such a URL. -/
def webhookUrl (state : AdminState) : Text :=
  if state.mode = "push".toList then
    "http://".toList ++ state.hostname.getD state.bind ++ "/webhooks/amail-inbound".toList
  else
    []

/-- `POST /api/v1/routes`. -/
def createRoute (world : AdminWorld) (state : AdminState) : Service ProfileRouter AdminReply :=
  fun request router =>
    match extractRoute world request with
    | .error code => (.status code, router)
    | .ok body =>
        (if body.email = [] ∨ body.host = [] ∨ body.port = 0 then
            .text 400 "email, host, and port are required".toList
          else .created (webhookUrl state),
          ProfileRouter.createRoute (world.writeAt request.arrival) router body.email body.host
            body.port)

/-- `DELETE /api/v1/routes/<email>`. -/
def deleteRoute (world : AdminWorld) (captured : List (Text × Text)) :
    Service ProfileRouter AdminReply :=
  fun request router =>
    match extractPath world captured with
    | .error code => (.status code, router)
    | .ok email =>
        (.text 200 "ok".toList,
          ProfileRouter.removeRoute (world.writeAt request.arrival) router email)

/-! ## The router -/

/-- Reject requests from addresses outside the admin allowlist (403). -/
def checkAdminIp (allowed : List Cidr) : Check ProfileRouter AdminReply := fun request router =>
  let addr := request.peer.getD .unspecified
  if allowed = [] ∨ allowed.any (fun entry => ipMatches addr entry.network entry.prefixLen) then
    (none, router)
  else
    (some (.status 403), router)

/-- The admin allowlist of a configuration, where it has a valid entry. -/
def adminCheck (adminAllowedIps : List Text) : Option (Check ProfileRouter AdminReply) :=
  let allowed := parseIpList adminAllowedIps
  if allowed = [] then none else some (checkAdminIp allowed)

/-- The path of the health check. -/
def healthPath : Text :=
  "/health".toList

/-- The path of the routes. -/
def routesPath : Text :=
  "/api/v1/routes".toList

/-- The path of one route. -/
def routePath : Text :=
  "/api/v1/routes/\x7bemail\x7d".toList

/-- Build the router for admin endpoints. -/
def buildAdminRouter (world : AdminWorld) (state : AdminState) :
    Router ProfileRouter AdminReply :=
  let adminRoutes := (Router.new .status).route healthPath
    fun _ => onMethod .status [(.get, health state)]
  let adminRoutes := adminRoutes.route routesPath
    fun _ => onMethod .status [(.get, listRoutes), (.post, createRoute world state)]
  let adminRoutes := adminRoutes.route routePath
    fun captured => onMethod .status [(.delete, deleteRoute world captured)]
  ((Router.new .status).nestRoot adminRoutes).guardedBy (adminCheck state.adminAllowedIps)

theorem admits_adminCheck {request : Incoming} {router : ProfileRouter} {ip : IpAddr}
    (peer : request.peer = some ip) (adminAllowedIps : List Text) :
    Admits (adminCheck adminAllowedIps) request router ↔
      parseIpList adminAllowedIps = [] ∨ Lists adminAllowedIps ip := by
  rw [lists_iff, Admits, adminCheck]
  by_cases empty : parseIpList adminAllowedIps = []
  · simp [empty]
  · simp [empty, checkAdminIp, peer, Cidr.contains, apply_ite Prod.fst]

theorem passed_adminCheck (adminAllowedIps : List Text) (request : Incoming)
    (router : ProfileRouter) : passed (adminCheck adminAllowedIps) request router = router := by
  simp only [adminCheck]
  split
  · rfl
  · simp only [passed, checkAdminIp]
    split <;> rfl

end Admin
end AimailBridge
