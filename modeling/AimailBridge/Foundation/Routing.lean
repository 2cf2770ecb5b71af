import AimailBridge.Foundation.Files
import AimailBridge.Foundation.Http
import AimailBridge.Foundation.IpAddr

/-!
# Request routing

A router sends a request to the route whose pattern matches its path, or else to its fallback.  A
layer wraps the routes and the fallback that are there when it is added: what is attached later
stays outside of it.
-/

namespace Foundation

open Text

/-- A request method. -/
inductive Method
  /-- `GET`. -/
  | get
  /-- `HEAD`. -/
  | head
  /-- `POST`. -/
  | post
  /-- `DELETE`. -/
  | delete
  /-- Any other method. -/
  | other (name : Text)
  deriving DecidableEq

/-- A request as a server receives it. -/
structure Incoming where
  /-- Method. -/
  method : Method
  /-- Path of the URI. -/
  path : Text
  /-- Host of the URI. -/
  uriHost : Option Text
  /-- Headers, their names in lower case. -/
  headers : List (Text × Bytes)
  /-- Body, as far as it arrives. -/
  body : Bytes
  /-- Whether the body breaks off before its end. -/
  interrupted : Bool
  /-- Address of the peer, where the server keeps it. -/
  peer : Option IpAddr
  /-- Limit that a layer has set for reading the body. -/
  bodyLimit : Option Nat
  /-- Time of arrival. -/
  arrival : Instant
  deriving DecidableEq

namespace Incoming

/-- `HeaderMap::get`. -/
def header (request : Incoming) (name : Text) : Option Bytes :=
  request.headers.lookup name

/-- The body, or the status with which reading it fails. -/
def readBody (request : Incoming) : Except UInt16 Bytes :=
  if request.bodyLimit.getD 2097152 < request.body.length then .error 413
  else if request.interrupted then .error 400
  else .ok request.body

/-- `axum::body::to_bytes`. -/
def toBytes (request : Incoming) (limit : Nat) : Option Bytes :=
  if limit < request.body.length ∨ request.interrupted = true then none else some request.body

end Incoming

/-! ## Headers -/

/-- `HeaderValue::to_str`: visible ASCII only. -/
def toStr (value : Bytes) : Option Text :=
  if value.all fun b => (32 ≤ b && b < 127) || b == 9 then
    some (value.map fun b => Char.ofNat b.toNat)
  else
    none

/-- `HeaderValue::from_str`: a text without control characters, tabs aside. -/
def headerValue (s : Text) : Option Bytes :=
  if (utf8 s).all fun b => (32 ≤ b && b != 127) || b == 9 then some (utf8 s) else none

/-- ASCII text is stored with one byte for each character. -/
theorem utf8_of_ascii {s : Text} (ascii : ∀ c ∈ s, c.toNat < 128) : utf8 s = asciiBytes s := by
  induction s with
  | nil => rfl
  | cons c s induction =>
      obtain ⟨first, rest⟩ := List.forall_mem_cons.mp ascii
      have single : c.utf8Size = 1 := by
        rw [Char.utf8Size_eq_one_iff, UInt32.le_iff_toNat_le]
        exact Nat.le_of_lt_succ first
      rw [utf8, List.flatMap_cons, String.utf8EncodeChar_eq_singleton single, asciiBytes,
        List.map_cons]
      refine congrArg₂ List.cons ?_ (induction rest)
      exact UInt8.toNat_inj.mp (by rw [UInt32.toNat_toUInt8]; rfl)

/-- `HeaderMap::remove`. -/
def removeHeader (name : Text) (headers : List (Text × Bytes)) : List (Text × Bytes) :=
  headers.filter fun header => header.1 ≠ name

/-- `HeaderMap::insert`. -/
def insertHeader (name : Text) (value : Bytes) (headers : List (Text × Bytes)) :
    List (Text × Bytes) :=
  removeHeader name headers ++ [(name, value)]

/-! ## Path patterns -/

/-- A segment of a route's path. -/
inductive Segment
  /-- The segment is this text. -/
  | literal (text : Text)
  /-- Any one segment. -/
  | param (name : Text)
  /-- The rest of the path, which must not be empty. -/
  | catchAll (name : Text)
  deriving DecidableEq

/-- The segment that a route's path spells: only a leading `:` or `*` captures. -/
def Segment.ofText : Text → Segment
  | ':' :: name => .param name
  | '*' :: name => .catchAll name
  | text => .literal text

/-- The segments of a path. -/
def segments (path : Text) : List Text :=
  path.splitOn '/'

/-- A last segment is set off by a slash. -/
theorem segments_concat (front : Text) {segment : Text} (single : '/' ∉ segment) :
    segments (front ++ '/' :: segment) = segments front ++ [segment] := by
  rw [segments, List.splitOn_append_cons_self, List.splitOn_eq_singleton single]
  rfl

/-- What a pattern captures from the segments of a path that it matches. -/
def matchSegments : List Segment → List Text → Option (List (Text × Text))
  | [], [] => some []
  | .literal text :: pattern, segment :: rest =>
      if segment = text then matchSegments pattern rest else none
  | .param name :: pattern, segment :: rest =>
      (matchSegments pattern rest).map ((name, segment) :: ·)
  | [.catchAll name], segment :: rest =>
      let captured := List.intercalate ['/'] (segment :: rest)
      if captured = [] then none else some [(name, captured)]
  | _, _ => none

/-! ## Services and routers -/

/-- What a service answers, and the state it leaves. -/
abbrev Service (σ ο : Type*) := Incoming → σ → ο × σ

variable {σ ο : Type*}

/-- What a middleware decides before the service behind it: an answer of its own, or to go on. -/
abbrev Check (σ ο : Type*) := Incoming → σ → Option ο × σ

/-- Put a middleware before a service, if there is one. -/
def guarded (check : Option (Check σ ο)) (next : Service σ ο) : Service σ ο :=
  fun request state =>
    match check with
    | none => next request state
    | some check =>
        match check request state with
        | (some refusal, state) => (refusal, state)
        | (none, state) => next request state

/-- The middleware, if there is one, lets the request pass. -/
def Admits (check : Option (Check σ ο)) (request : Incoming) (state : σ) : Prop :=
  ∀ present, check = some present → (present request state).1 = none

/-- The state that a middleware leaves. -/
def passed (check : Option (Check σ ο)) (request : Incoming) (state : σ) : σ :=
  match check with
  | none => state
  | some check => (check request state).2

/-- `DefaultBodyLimit::max`. -/
def limitBody (limit : Nat) (next : Service σ ο) : Service σ ο :=
  fun request state => next { request with bodyLimit := some limit } state

/-- A method router: `HEAD` falls back to `GET`, other methods without a handler are refused. -/
def onMethod (answer : UInt16 → ο) (handlers : List (Method × Service σ ο)) : Service σ ο :=
  fun request state =>
    match handlers.lookup request.method,
      if request.method = .head then handlers.lookup .get else none with
    | some handler, _ | none, some handler => handler request state
    | none, none => (answer 405, state)

/-- A route: a pattern, and what serves the paths it matches. -/
structure Route (σ ο : Type*) where
  /-- The pattern. -/
  pattern : List Segment
  /-- The service, given what the pattern captured. -/
  endpoint : List (Text × Text) → Service σ ο

/-- Routes with a fallback. -/
structure Router (σ ο : Type*) where
  /-- The routes, no two of which match the same path. -/
  routes : List (Route σ ο)
  /-- What serves every other path. -/
  fallback : Service σ ο
  /-- Whether the fallback is the one every router begins with. -/
  defaultFallback : Bool

namespace Router

/-- `Router::new`. -/
def new (answer : UInt16 → ο) : Router σ ο where
  routes := []
  fallback := fun _ state => (answer 404, state)
  defaultFallback := true

/-- `Router::route`. -/
def route (path : Text) (endpoint : List (Text × Text) → Service σ ο) (router : Router σ ο) :
    Router σ ο :=
  { router with routes := router.routes ++ [⟨(segments path).map Segment.ofText, endpoint⟩] }

/-- `Router::layer`. -/
def layer (wrap : Service σ ο → Service σ ο) (router : Router σ ο) : Router σ ο where
  routes := router.routes.map fun route =>
    { route with endpoint := fun captured => wrap (route.endpoint captured) }
  fallback := wrap router.fallback
  defaultFallback := router.defaultFallback

/-- Add a middleware, under the condition that there is one. -/
def guardedBy (check : Option (Check σ ο)) (router : Router σ ο) : Router σ ο :=
  match check with
  | none => router
  | some check => router.layer (guarded (some check))

/-- `Router::fallback`. -/
def setFallback (service : Service σ ο) (router : Router σ ο) : Router σ ο :=
  { router with fallback := service, defaultFallback := false }

/-- `Router::nest` at the root, of a router without a fallback of its own. -/
def nestRoot (router inner : Router σ ο) : Router σ ο :=
  { router with routes := router.routes ++ inner.routes }

/-- The service of the route that matches a path. -/
def routed (router : Router σ ο) (path : Text) : Option (Service σ ο) :=
  router.routes.findSome? fun route =>
    (matchSegments route.pattern (segments path)).map route.endpoint

/-- The service that a path leads to. -/
def select (router : Router σ ο) (path : Text) : Service σ ο :=
  (router.routed path).getD router.fallback

/-- What the router answers to a request. -/
def handle (router : Router σ ο) : Service σ ο :=
  fun request state => router.select request.path request state

/-- The state after a history of requests. -/
def stateAfter (router : Router σ ο) (state : σ) (history : List Incoming) : σ :=
  history.foldl (fun state request => (router.handle request state).2) state

end Router

/-! ## What middlewares let pass -/

variable {check : Option (Check σ ο)} {next : Service σ ο} {request : Incoming} {state : σ}

theorem guarded_of_admits (admits : Admits check request state) :
    guarded check next request state = next request (passed check request state) := by
  cases check with
  | none => rfl
  | some present =>
      have none := admits present rfl
      rw [guarded, passed]
      cases decided : present request state with
      | mk refusal after =>
          rw [decided] at none
          obtain rfl : refusal = Option.none := none
          rfl

/-- Before a service that leaves the state alone, the middleware alone decides the state. -/
theorem guarded_state (keeps : ∀ state, (next request state).2 = state) :
    (guarded check next request state).2 = passed check request state := by
  cases check with
  | none => exact keeps state
  | some present =>
      rw [guarded, passed]
      split
      · next decided => rw [decided]
      · next decided => rw [decided, keeps]

theorem onMethod_singleton (answer : UInt16 → ο) {method : Method} (other : method ≠ .get)
    (handler : Service σ ο) :
    onMethod answer [(method, handler)] request state =
      if request.method = method then handler request state else (answer 405, state) := by
  rw [onMethod]
  by_cases same : request.method = method
  · simp [same]
  · have unlike : (request.method == method) = false := beq_false_of_ne same
    have not_get : (Method.get == method) = false := beq_false_of_ne other.symm
    simp [List.lookup_cons, unlike, not_get, same]

/-- All refusals of the middleware are answers with a status. -/
def Refuses (answer : UInt16 → ο) (check : Option (Check σ ο)) : Prop :=
  ∀ present, check = some present → ∀ request state refusal,
    (present request state).1 = some refusal → ∃ code, refusal = answer code

/-- An answer that no middleware gives comes from a service that the request was passed on to. -/
theorem guarded_iff {answer : UInt16 → ο} {special : ο → Prop} (refuses : Refuses answer check)
    (plain : ∀ code, ¬ special (answer code)) :
    special (guarded check next request state).1 ↔
      Admits check request state ∧ special (next request (passed check request state)).1 := by
  by_cases admits : Admits check request state
  · rw [guarded_of_admits admits]
    exact (and_iff_right admits).symm
  · refine iff_of_false (fun given => ?_) fun both => admits both.1
    obtain ⟨present, rfl, refused⟩ : ∃ present, check = some present ∧
        (present request state).1 ≠ none := by
      simpa [Admits] using admits
    cases decided : present request state with
    | mk answered after =>
        cases answered with
        | none => exact refused (by rw [decided])
        | some refusal =>
            obtain ⟨code, rfl⟩ := refuses present rfl request state refusal (by rw [decided])
            apply plain code
            simpa only [guarded, decided] using given

namespace Router

variable {router : Router σ ο} {path : Text}

@[simp]
theorem stateAfter_cons (request : Incoming) (state : σ) (history : List Incoming) :
    router.stateAfter state (request :: history) =
      router.stateAfter (router.handle request state).2 history := rfl

@[simp]
theorem stateAfter_concat (request : Incoming) (state : σ) (history : List Incoming) :
    router.stateAfter state (history ++ [request]) =
      (router.handle request (router.stateAfter state history)).2 := by
  rw [stateAfter, List.foldl_append]
  rfl

/-! ## What layers cover -/

@[simp]
theorem routed_new (answer : UInt16 → ο) : (new answer : Router σ ο).routed path = none := rfl

@[simp]
theorem routed_route (own : Text) (endpoint : List (Text × Text) → Service σ ο) :
    (router.route own endpoint).routed path =
      (router.routed path).or
        ((matchSegments ((segments own).map Segment.ofText) (segments path)).map endpoint) := by
  rw [routed, route, List.findSome?_append, List.findSome?_singleton]
  rfl

@[simp]
theorem routed_layer (wrap : Service σ ο → Service σ ο) :
    (router.layer wrap).routed path = (router.routed path).map wrap := by
  rw [routed, routed, layer, List.findSome?_map, List.map_findSome?]
  congr 1
  funext route
  rw [Function.comp_apply, Function.comp_apply, Option.map_map]
  rfl

@[simp]
theorem routed_setFallback (service : Service σ ο) :
    (router.setFallback service).routed path = router.routed path := rfl

@[simp]
theorem routed_nestRoot (inner : Router σ ο) :
    (router.nestRoot inner).routed path = (router.routed path).or (inner.routed path) := by
  rw [routed, nestRoot, List.findSome?_append]
  rfl

/-- A layer covers whatever a path leads to when it is added. -/
@[simp]
theorem select_layer (wrap : Service σ ο → Service σ ο) :
    (router.layer wrap).select path = wrap (router.select path) := by
  rw [select, select, routed_layer]
  cases router.routed path <;> rfl

@[simp]
theorem routed_guardedBy : (router.guardedBy check).routed path =
    (router.routed path).map (guarded check) := by
  cases check with
  | none =>
      have same : guarded (none : Option (Check σ ο)) = id := rfl
      rw [guardedBy, same, Option.map_id]
      rfl
  | some present => exact routed_layer _

@[simp]
theorem select_guardedBy :
    (router.guardedBy check).select path = guarded check (router.select path) := by
  cases check with
  | none => rfl
  | some present => exact select_layer _

/-- A later fallback is covered by nothing. -/
theorem select_setFallback (service : Service σ ο) :
    (router.setFallback service).select path = (router.routed path).getD service := rfl

end Router
end Foundation
