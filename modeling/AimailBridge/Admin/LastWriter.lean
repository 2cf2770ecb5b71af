import AimailBridge.Admin.Api
import AimailBridge.Health.Check

/-!
# The admin API as a map

Requests for new routes reach their handler; requests to delete one do not, because the route's
path captures nothing.  The API is the map it is meant to be as long as nobody deletes a route that
is not created again.
-/

namespace AimailBridge

open Foundation Text Admin

/-- A call of the admin API that changes the routes. -/
inductive RouteCall
  /-- Create a route. -/
  | post (body : CreateRouteBody)
  /-- Delete the route of an email. -/
  | delete (email : Text)
  deriving DecidableEq

namespace RouteCall

/-- The email that a call is about. -/
def email : RouteCall → Text
  | .post body => body.email
  | .delete email => email

/-- The call creates a route. -/
def isPost : RouteCall → Bool
  | .post _ => true
  | .delete _ => false

end RouteCall

/-- The request makes the call: its fields are not empty, and an email to delete is the last segment
of the path. -/
def Makes (world : AdminWorld) (request : Incoming) : RouteCall → Prop
  | .post body => request.method = .post ∧ request.path = routesPath ∧
      extractRoute world request = .ok body ∧ body.email ≠ [] ∧ body.host ≠ [] ∧ 0 < body.port
  | .delete email => request.method = .delete ∧ ∃ segment, '/' ∉ segment ∧
      request.path = routesPath ++ '/' :: segment ∧ world.percentDecode segment = some email

/-- The last call about an email creates its route. -/
def lastIsPost (calls : List RouteCall) (email : Text) : Bool :=
  calls.foldl (fun last call => if call.email = email then call.isPost else last) false

/-- The source allowlist lets the request pass. -/
def AdmittedToAdmin (state : AdminState) (request : Incoming) : Prop :=
  ∀ router, Admits (adminCheck state.adminAllowedIps) request router

/-- The listing names exactly the emails whose last call creates their route, each once. -/
def ListsLastPosted (world : AdminWorld) (state : AdminState) (listing : Incoming)
    (router : ProfileRouter) (calls : List RouteCall) : Prop :=
  ∃ entries, ((buildAdminRouter world state).handle listing router).1 = .routes entries ∧
    (entries.map RouteEntry.email).Nodup ∧
    ∀ email, email ∈ entries.map RouteEntry.email ↔ lastIsPost calls email = true

variable {world : AdminWorld} {state : AdminState} {request : Incoming} {router : ProfileRouter}
  {calls : List RouteCall} {call : RouteCall}

/-! ## Where requests go -/

theorem select_routes : (buildAdminRouter world state).select routesPath =
    guarded (adminCheck state.adminAllowedIps)
      (onMethod .status [(.get, listRoutes), (.post, createRoute world state)]) := by
  have health : matchSegments ((segments healthPath).map Segment.ofText) (segments routesPath) =
      none := by decide
  have routes : matchSegments ((segments routesPath).map Segment.ofText) (segments routesPath) =
      some [] := by decide
  rw [buildAdminRouter, Router.select_guardedBy, Router.select]
  simp [health, routes]

/-- The path of one route spells its last segment out. -/
theorem select_route {segment : Text} (single : '/' ∉ segment) :
    (buildAdminRouter world state).select (routesPath ++ '/' :: segment) =
      guarded (adminCheck state.adminAllowedIps)
        (if segment = "\x7bemail\x7d".toList then
          onMethod .status [(.delete, deleteRoute world [])]
        else fun _ router => (.status 404, router)) := by
  have split : segments (routesPath ++ '/' :: segment) =
      [[], "api".toList, "v1".toList, "routes".toList, segment] := by
    rw [segments_concat routesPath single]
    rfl
  have health : matchSegments ((segments healthPath).map Segment.ofText)
      [[], "api".toList, "v1".toList, "routes".toList, segment] = none := rfl
  have routes : matchSegments ((segments routesPath).map Segment.ofText)
      [[], "api".toList, "v1".toList, "routes".toList, segment] = none := rfl
  have route : matchSegments ((segments routePath).map Segment.ofText)
      [[], "api".toList, "v1".toList, "routes".toList, segment] =
        if segment = "\x7bemail\x7d".toList then some [] else none := rfl
  rw [buildAdminRouter, Router.select_guardedBy, Router.select]
  simp only [Router.routed_nestRoot, Router.routed_route, Router.routed_new, split, health, routes,
    route]
  split <;> rfl

/-! ## What requests do -/

theorem guarded_admitted {next : Service ProfileRouter AdminReply}
    (admitted : AdmittedToAdmin state request) :
    guarded (adminCheck state.adminAllowedIps) next request router = next request router := by
  rw [guarded_of_admits (admitted router), passed_adminCheck]

theorem handle_post {body : CreateRouteBody} (admitted : AdmittedToAdmin state request)
    (makes : Makes world request (.post body)) :
    ((buildAdminRouter world state).handle request router).2 =
      ProfileRouter.updateRoute (world.writeAt request.arrival) router body.email body.host
        body.port := by
  obtain ⟨post, path, extracted, email, host, port⟩ := makes
  have complete : ¬ (body.email = [] ∨ body.host = [] ∨ body.port = 0) := by
    rintro (empty | empty | zero)
    · exact email empty
    · exact host empty
    · exact absurd port (by simp [zero])
  have handler : onMethod .status [(.get, listRoutes), (.post, createRoute world state)] request
      router = createRoute world state request router := by
    have not_get : (Method.post == Method.get) = false := by decide
    simp [onMethod, post, List.lookup_cons, not_get]
  rw [Router.handle, path, select_routes, guarded_admitted admitted, handler, createRoute,
    extracted]
  exact if_neg complete

/-- A request to delete a route changes nothing: at best it meets a handler without its email. -/
theorem handle_delete {email : Text} (admitted : AdmittedToAdmin state request)
    (makes : Makes world request (.delete email)) :
    ((buildAdminRouter world state).handle request router).2 = router := by
  obtain ⟨delete, segment, single, path, _⟩ := makes
  rw [Router.handle, path, select_route single, guarded_admitted admitted]
  split
  · rw [onMethod_singleton _ (by decide), if_pos delete]
    rfl
  · rfl

theorem handle_get (admitted : AdmittedToAdmin state request) (get : request.method = .get)
    (path : request.path = routesPath) :
    ((buildAdminRouter world state).handle request router).1 =
      .routes ((ProfileRouter.listRoutes router).map fun r => ⟨r.email, r.host, r.port⟩) := by
  have handler : onMethod .status [(.get, listRoutes), (.post, createRoute world state)] request
      router = listRoutes request router := by
    simp [onMethod, get]
  rw [Router.handle, path, select_routes, guarded_admitted admitted, handler]
  rfl

/-! ## What runs leave -/

/-- The run has a call that creates a route for the email. -/
def Posted (calls : List RouteCall) (email : Text) : Prop :=
  ∃ call ∈ calls, call.isPost = true ∧ call.email = email

theorem posted_cons {email : Text} : Posted (call :: calls) email ↔
    (call.isPost = true ∧ call.email = email) ∨ Posted calls email := by
  simp [Posted]

/-- Every route stays under its email, and one that has been created is never lost. -/
theorem stored_run {requests : List Incoming}
    (makes : List.Forall₂ (Makes world) requests calls)
    (admitted : ∀ request ∈ requests, AdmittedToAdmin state request)
    (keyed : Keyed router.routes) :
    Keyed ((buildAdminRouter world state).stateAfter router requests).routes ∧ ∀ email,
      email ∈ ProfileRouter.listEmails ((buildAdminRouter world state).stateAfter router requests) ↔
        email ∈ ProfileRouter.listEmails router ∨ Posted calls email := by
  induction makes generalizing router with
  | nil => exact ⟨keyed, fun email => by simp [Router.stateAfter, Posted]⟩
  | @cons request call requests calls first _ induction =>
      obtain ⟨admitted_first, admitted_later⟩ := List.forall_mem_cons.mp admitted
      rw [Router.stateAfter_cons]
      cases call with
      | delete email =>
          rw [handle_delete admitted_first first]
          obtain ⟨kept, listed⟩ := induction admitted_later keyed
          refine ⟨kept, fun other => ?_⟩
          rw [posted_cons]
          simpa [RouteCall.isPost] using listed other
      | post body =>
          rw [handle_post admitted_first first]
          have keyed_after : Keyed (ProfileRouter.updateRoute (world.writeAt request.arrival) router
              body.email body.host body.port).routes :=
            keyed.insert (routeOfRequest_email body.email body.host body.port)
          obtain ⟨kept, listed⟩ := induction admitted_later keyed_after
          refine ⟨kept, fun other => ?_⟩
          have inserted : other ∈ ProfileRouter.listEmails (ProfileRouter.updateRoute
              (world.writeAt request.arrival) router body.email body.host body.port) ↔
                other = body.email ∨ other ∈ ProfileRouter.listEmails router := by
            rw [ProfileRouter.listEmails, updateRoute_routes, ← AList.mem_keys, AList.mem_insert]
            rfl
          rw [listed other, inserted, posted_cons, or_comm (a := other = body.email), or_assoc]
          simp [RouteCall.isPost, RouteCall.email, eq_comm]

theorem posted_of_foldl {email : Text} (start : Bool)
    (last : calls.foldl (fun last call =>
      if call.email = email then call.isPost else last) start = true) :
    start = true ∨ Posted calls email := by
  induction calls generalizing start with
  | nil => exact Or.inl last
  | cons call calls induction =>
      rw [List.foldl_cons] at last
      rw [posted_cons]
      rcases induction _ last with here | later
      · by_cases same : call.email = email
        · rw [if_pos same] at here
          exact Or.inr (Or.inl ⟨here, same⟩)
        · rw [if_neg same] at here
          exact Or.inl here
      · exact Or.inr (Or.inr later)

theorem emails_listed (keyed : Keyed router.routes) :
    ((ProfileRouter.listRoutes router).map fun r => (⟨r.email, r.host, r.port⟩ : RouteEntry)).map
      RouteEntry.email = ProfileRouter.listEmails router := by
  rw [ProfileRouter.listRoutes, ProfileRouter.listEmails, AList.keys, List.keys, List.map_map,
    List.map_map]
  apply List.map_congr_left
  intro entry member
  exact keyed entry.1 entry.2 (AList.mem_lookup_iff.mpr member)

/-- After every run from an empty table the listing names exactly the emails whose last call is a
creation, each once, exactly when no email that was ever created has been deleted since. -/
theorem listsLastPosted_iff {requests : List Incoming} {listing : Incoming}
    (empty : router.routes = ∅) (makes : List.Forall₂ (Makes world) requests calls)
    (admitted : ∀ request ∈ listing :: requests, AdmittedToAdmin state request)
    (get : listing.method = .get) (path : listing.path = routesPath) :
    ListsLastPosted world state listing
        ((buildAdminRouter world state).stateAfter router requests) calls ↔
      ∀ call ∈ calls, call.isPost = true → lastIsPost calls call.email = true := by
  obtain ⟨admitted_listing, admitted_run⟩ := List.forall_mem_cons.mp admitted
  have keyed : Keyed router.routes := by
    rw [empty]
    exact HashMap.all_empty _
  obtain ⟨kept, listed⟩ := stored_run makes admitted_run keyed
  have posted : ∀ email, email ∈ ProfileRouter.listEmails
      ((buildAdminRouter world state).stateAfter router requests) ↔ Posted calls email := by
    intro email
    rw [listed]
    simp [ProfileRouter.listEmails, empty]
  constructor
  · rintro ⟨entries, answered, _, exactly⟩ call member post
    rw [handle_get admitted_listing get path] at answered
    obtain rfl := AdminReply.routes.inj answered
    rw [← exactly, emails_listed kept, posted]
    exact ⟨call, member, post, rfl⟩
  · intro last
    refine ⟨_, handle_get admitted_listing get path, ?_, fun email => ?_⟩
    · rw [emails_listed kept]
      exact AList.keys_nodup _
    · rw [emails_listed kept, posted]
      constructor
      · rintro ⟨call, member, post, rfl⟩
        exact last call member post
      · exact fun last => (posted_of_foldl false last).resolve_left Bool.false_ne_true

/-! ## A route that is created and deleted -/

/-- The route of a bot. -/
def botRoute : CreateRouteBody :=
  ⟨"bot@x.org".toList, "10.0.0.7".toList, 8645⟩

/-- The text of that route. -/
def botBody : Bytes :=
  asciiBytes "\x7b\"email\":\"bot@x.org\",\"host\":\"10.0.0.7\",\"port\":8645\x7d".toList

/-- Crates that read that text, and path segments without escapes. -/
def botWorld : AdminWorld where
  jsonContentType header := header = some (asciiBytes "application/json".toList)
  readRoute body := if body = botBody then .ok botRoute else .error 400
  percentDecode segment := if '%' ∈ segment then none else some segment
  writeAt _ := .done

/-- An API for local clients. -/
def localAdmin : AdminState where
  mode := "push".toList
  hostname := none
  bind := "0.0.0.0:80".toList
  adminAllowedIps := ["127.0.0.1".toList]
  startup := 0
  version := "1".toList

/-- A local request without headers or a body. -/
def localRequest (method : Method) (path : Text) : Incoming where
  method := method
  path := path
  uriHost := none
  headers := []
  body := []
  interrupted := false
  peer := some (.v4 0x7F000001)
  bodyLimit := none
  arrival := 0

/-- The request that creates the route. -/
def createBot : Incoming :=
  { localRequest .post routesPath with
    headers := [("content-type".toList, asciiBytes "application/json".toList)]
    body := botBody }

/-- The request that is meant to delete it. -/
def deleteBot : Incoming :=
  localRequest .delete (routesPath ++ '/' :: "bot@x.org".toList)

theorem admitted_local {request : Incoming} (peer : request.peer = some (.v4 0x7F000001)) :
    AdmittedToAdmin localAdmin request :=
  fun _ => (admits_adminCheck peer _).mpr (Or.inr (by decide))

theorem makes_createBot : Makes botWorld createBot (.post botRoute) := by
  refine ⟨rfl, rfl, ?_, by decide, by decide, by decide⟩
  rfl

theorem makes_deleteBot : Makes botWorld deleteBot (.delete "bot@x.org".toList) :=
  ⟨rfl, "bot@x.org".toList, by decide, rfl, rfl⟩

/-- A deleted route is still listed. -/
theorem deleted_listed : ¬ ListsLastPosted botWorld localAdmin (localRequest .get routesPath)
    ((buildAdminRouter botWorld localAdmin).stateAfter (ProfileRouter.new none)
      [createBot, deleteBot])
    [.post botRoute, .delete "bot@x.org".toList] := by
  rintro ⟨entries, answered, _, exactly⟩
  have keyed : Keyed (ProfileRouter.new none).routes := HashMap.all_empty _
  have admitted : ∀ request ∈ [createBot, deleteBot], AdmittedToAdmin localAdmin request :=
    List.forall_mem_cons.mpr ⟨admitted_local rfl, List.forall_mem_singleton.mpr
      (admitted_local rfl)⟩
  obtain ⟨kept, listed⟩ :=
    stored_run (.cons makes_createBot (.cons makes_deleteBot .nil)) admitted keyed
  rw [handle_get (admitted_local rfl) rfl rfl] at answered
  obtain rfl := AdminReply.routes.inj answered
  have last := (exactly "bot@x.org".toList).mp (by
    rw [emails_listed kept, listed]
    exact Or.inr ⟨_, List.mem_cons_self, rfl, rfl⟩)
  exact absurd last (by decide)

/-- The route of another recipient. -/
def annRoute : CreateRouteBody :=
  ⟨"ann@x.org".toList, "https://10.0.0.9/hook".toList, 443⟩

/-- The text of that route. -/
def annBody : Bytes :=
  asciiBytes ("\x7b\"email\":\"ann@x.org\",\"host\":\"https://10.0.0.9/hook\"," ++
    "\"port\":443\x7d").toList

/-- Crates that read both texts. -/
def pairWorld : AdminWorld :=
  { botWorld with
    readRoute body := if body = annBody then .ok annRoute else botWorld.readRoute body }

/-- The request that creates the other route. -/
def createAnn : Incoming :=
  { createBot with body := annBody }

/-- A request to delete a route that nobody has created. -/
def deleteEve : Incoming :=
  localRequest .delete (routesPath ++ '/' :: "eve@y.org".toList)

theorem makes_createAnn : Makes pairWorld createAnn (.post annRoute) := by
  refine ⟨rfl, rfl, ?_, by decide, by decide, by decide⟩
  rfl

theorem makes_createBot_pair : Makes pairWorld createBot (.post botRoute) := by
  refine ⟨rfl, rfl, ?_, by decide, by decide, by decide⟩
  rfl

/-- Routes that are created are listed, also one that is created again after it was deleted. -/
theorem created_listed : ListsLastPosted pairWorld localAdmin (localRequest .get routesPath)
    ((buildAdminRouter pairWorld localAdmin).stateAfter (ProfileRouter.new none)
      [createBot, createAnn, deleteBot, deleteEve, createBot])
    [.post botRoute, .post annRoute, .delete "bot@x.org".toList, .delete "eve@y.org".toList,
      .post botRoute] := by
  have delete_bot : Makes pairWorld deleteBot (.delete "bot@x.org".toList) :=
    ⟨rfl, "bot@x.org".toList, by decide, rfl, rfl⟩
  have delete_eve : Makes pairWorld deleteEve (.delete "eve@y.org".toList) :=
    ⟨rfl, "eve@y.org".toList, by decide, rfl, rfl⟩
  have makes : List.Forall₂ (Makes pairWorld)
      [createBot, createAnn, deleteBot, deleteEve, createBot] _ :=
    .cons makes_createBot_pair (.cons makes_createAnn (.cons delete_bot (.cons delete_eve
      (.cons makes_createBot_pair .nil))))
  refine (listsLastPosted_iff rfl makes ?_ rfl rfl).mpr (by decide)
  intro request member
  simp only [List.mem_cons, List.not_mem_nil, or_false] at member
  rcases member with rfl | rfl | rfl | rfl | rfl | rfl <;> exact admitted_local rfl

end AimailBridge
