import AimailBridge.Admin.LastWriter
import AimailBridge.Pull.Loop
import AimailBridge.Server.Relaying

/-!
# The running bridge

Requests to the server, reloads of the routes file, removals by the health checker and cycles of the
pull loops share one route table.  Whatever order they come in, the bridge hands mail to its HTTP
client only for targets that an admitted registration or an entry of a loaded file has named:
neither senders nor the relay choose them.  The client follows the redirects that a target answers
with by itself, so where these lead is up to the target.
-/

namespace AimailBridge

open Foundation Text ProfileRouter ProfileRoute Push Pull

/-- A bridge as it is set up. -/
structure Deployment where
  /-- The configuration of the server. -/
  app : AppConfig
  /-- The TOML parser. -/
  fromStr : Text → Option (HashMap Text Text)
  /-- The systems that are polled. -/
  systems : Nat → PullSystemConfig

/-- The tables of a running bridge. -/
structure BridgeState where
  /-- The tables of the server. -/
  app : AppState
  /-- The pull loops, which share the routes with the server. -/
  loops : Nat → PullLoop

/-- What can happen to a running bridge. -/
inductive BridgeEvent
  /-- The server answers a request. -/
  | request (turn : HttpTurn)
  /-- A reload installs what it has read of the routes file. -/
  | install (content : Option Text) (order : IterationOrder Text ProfileRoute)
  /-- The health checker removes a route. -/
  | remove (disk : DiskWrite) (email : Text)
  /-- The pull loop of a system goes through a cycle. -/
  | cycle (system : Nat) (turn : CycleTurn)

namespace BridgeState

/-- The bridge with other routes. -/
def setRouter (state : BridgeState) (router : ProfileRouter) : BridgeState :=
  { state with app := { state.app with router } }

/-- The pull loop of a system after one more cycle. -/
def cycled (deployment : Deployment) (state : BridgeState) (system : Nat) (turn : CycleTurn) :
    PullLoop :=
  Pull.cycle (deployment.systems system) deployment.app.json deployment.app.regex
    { state.loops system with router := state.app.router } turn

/-- The bridge after an event. -/
def step (deployment : Deployment) (state : BridgeState) : BridgeEvent → BridgeState
  | .request turn => { state with app := (serve deployment.app turn state.app).2 }
  | .install content order =>
      state.setRouter (installRoutes deployment.app.regex order
        (loadRoutesFile deployment.fromStr content)
        { state.app.router with writingRoutes := false })
  | .remove disk email => state.setRouter (removeRoute disk state.app.router email)
  | .cycle system turn =>
      let loop := state.cycled deployment system turn
      { state.setRouter loop.router with loops := Function.update state.loops system loop }

end BridgeState

/-- The target of a request to an agent. -/
def HttpEffect.target : HttpEffect → Option Text
  | .relayed webhook => some webhook.target
  | .entry request => some request.target
  | .site _ => none

/-- The target of a forwarded delivery. -/
def Pull.DeliveryEvent.target : DeliveryEvent → Option Text
  | .forwarded _ request _ _ _ => some request.target
  | _ => none

/-- The targets for which an event hands mail to the HTTP client. -/
def targets (deployment : Deployment) (state : BridgeState) : BridgeEvent → List Text
  | .request turn =>
      (serve deployment.app turn state.app).1.effects.filterMap HttpEffect.target
  | .cycle system turn =>
      (((state.cycled deployment system turn).cycles.drop
        (state.loops system).cycles.length).flatMap CycleLog.events).filterMap DeliveryEvent.target
  | _ => []

/-- The targets for which the events of a run hand mail to the HTTP client. -/
def allTargets (deployment : Deployment) : BridgeState → List BridgeEvent → List Text
  | _, [] => []
  | state, event :: events =>
      targets deployment state event ++ allTargets deployment (state.step deployment event) events

/-- Mail is handed to the HTTP client only for targets that comply with a policy. -/
def SendsOnlyTo (policy : Text → Prop) (deployment : Deployment) (state : BridgeState)
    (events : List BridgeEvent) : Prop :=
  ∀ target ∈ allTargets deployment state events, policy target

/-! ## Policies -/

/-- Every target that a lookup can give complies with the policy. -/
structure Complies (policy : Text → Prop) (router : ProfileRouter) : Prop where
  /-- The targets of the exact routes. -/
  exact : router.routes.All fun _ route => policy route.targetUrl
  /-- The targets that are made for emails that match a pattern. -/
  patterns : ∀ pattern ∈ router.regexPatterns, policy (defaultTarget pattern.host pattern.port)

/-- What other tasks do in the middle of an event complies with the policy. -/
def KeepsPolicy (policy : Text → Prop) (change : ProfileRouter → ProfileRouter) : Prop :=
  ∀ router, Complies policy router → Complies policy (change router)

/-- The event takes in complying targets only: those of the routes that an admitted client
registers, and those of the entries of a loaded file. -/
def TakesComplying (policy : Text → Prop) (deployment : Deployment) : BridgeEvent → Prop
  | .request turn =>
      (∀ body, AdmittedToAdmin deployment.app.admin turn.request.toIncoming →
        Makes turn.admin turn.request.toIncoming (.post body) →
        policy (routeOfRequest body.email body.host body.port).targetUrl) ∧
      ∀ place, KeepsPolicy policy (turn.webhook.turns place).change
  | .install content _ =>
      ∀ key route, (loadRoutesFile deployment.fromStr content).lookup key = some route →
        policy (if isRegexPattern key then defaultTarget route.host route.port
          else route.targetUrl)
  | .remove _ _ => True
  | .cycle _ turn =>
      KeepsPolicy policy turn.change ∧ ∀ place, KeepsPolicy policy (turn.deliveries place).change

section Policies

variable {policy : Text → Prop} {json : JsonCrate} {regex : RegexCrate} {router : ProfileRouter}

/-! ## Lookups -/

/-- A lookup gives a complying target, and remembers no other. -/
theorem Complies.lookup (complies : Complies policy router) (regex : RegexCrate) (email : Text) :
    (∀ route, (lookup regex router email).1 = some route → policy route.targetUrl) ∧
      Complies policy (ProfileRouter.lookup regex router email).2 := by
  rw [ProfileRouter.lookup]
  split
  · next route found =>
      refine ⟨fun other same => ?_, complies⟩
      obtain rfl := Option.some.inj same
      exact complies.exact email route found
  · split
    · next pattern matched =>
        have allowed := complies.patterns pattern (List.mem_of_find?_eq_some matched)
        refine ⟨fun other same => ?_, complies.exact.insert allowed, complies.patterns⟩
        obtain rfl := Option.some.inj same
        exact allowed
    · refine ⟨fun other same => ?_, complies⟩
      cases same

/-! ## Webhooks -/

section Webhooks

variable {forward : List Text} {body payload : Bytes} {request : Request}

/-- What is sent for an entry goes to a complying target. -/
theorem Complies.handleEntry (complies : Complies policy router) {turn : EntryTurn}
    (quiet : KeepsPolicy policy turn.change) (entry : Json) :
    Complies policy (handleEntry regex forward body turn router entry).1 ∧
      ∀ request, (Push.handleEntry regex forward body turn router entry).2.request = some request →
        policy request.target := by
  rw [Push.handleEntry]
  split
  · refine ⟨quiet router complies, fun request sent => ?_⟩
    cases sent
  · next email _ =>
      obtain ⟨allowed, after⟩ := (quiet router complies).lookup regex email
      split
      · next left missing =>
          rw [missing] at after
          refine ⟨after, fun request sent => ?_⟩
          cases sent
      · next route left found =>
          rw [found] at after allowed
          refine ⟨after, fun request sent => ?_⟩
          obtain rfl := Option.some.inj sent
          exact allowed route rfl

theorem Complies.handleEntries {turns : Nat → EntryTurn}
    (quiet : ∀ place, KeepsPolicy policy (turns place).change) (complies : Complies policy router)
    (entries : List Json) :
    Complies policy (handleEntries regex forward body turns router entries).1 ∧
      ∀ request ∈ (Push.handleEntries regex forward body turns router entries).2.filterMap
        EntryLog.request, policy request.target := by
  induction entries generalizing turns router with
  | nil => exact ⟨complies, fun _ member => absurd member List.not_mem_nil⟩
  | cons entry entries induction =>
      obtain ⟨first, allowed⟩ := complies.handleEntry (quiet 0) entry
      obtain ⟨after, later⟩ := induction (fun place => quiet (place + 1)) first
      refine ⟨after, fun request member => ?_⟩
      obtain ⟨log, listed, sent⟩ := List.mem_filterMap.mp member
      rcases List.mem_cons.mp listed with rfl | rest
      · exact allowed request sent
      · exact later request (List.mem_filterMap.mpr ⟨log, rest, sent⟩)

theorem Complies.handleBatchWebhook (complies : Complies policy router) {turns : Nat → EntryTurn}
    (quiet : ∀ place, KeepsPolicy policy (turns place).change) (payload : Bytes) :
    Complies policy (handleBatchWebhook json regex forward turns router payload).2.1 ∧
      ∀ request ∈ (Push.handleBatchWebhook json regex forward turns router payload).2.2.filterMap
        EntryLog.request, policy request.target := by
  have unsent : ∀ request ∈ ([] : List EntryLog).filterMap EntryLog.request,
      policy request.target := fun _ member => absurd member List.not_mem_nil
  rw [Push.handleBatchWebhook]
  split
  · exact ⟨complies, unsent⟩
  · split
    · exact ⟨complies, unsent⟩
    · split
      · exact ⟨complies, unsent⟩
      · exact complies.handleEntries quiet _

/-- Whatever is sent for a webhook goes to complying targets. -/
theorem Complies.handleWebhook (complies : Complies policy router) {world : WebhookWorld}
    (quiet : ∀ place, KeepsPolicy policy (world.turns place).change) (request : Incoming) :
    Complies policy (handleWebhook json regex forward world router request body).router ∧
      ∀ target ∈ (Push.handleWebhook json regex forward world router request body).effects.filterMap
        HttpEffect.target, policy target := by
  have nothing : ∀ target ∈ ([] : List HttpEffect).filterMap HttpEffect.target, policy target :=
    fun _ member => absurd member List.not_mem_nil
  rw [Push.handleWebhook]
  split
  · obtain ⟨after, allowed⟩ := complies.handleBatchWebhook quiet body
    refine ⟨after, fun target member => ?_⟩
    simp only [WebhookOutcome.effects, Option.toList_none, List.map_nil, List.nil_append,
      List.filterMap_map] at member
    obtain ⟨sent, listed, same⟩ := List.mem_filterMap.mp member
    obtain rfl := Option.some.inj same
    exact allowed sent listed
  · rcases handleSingle_cases regex forward world router request body with
      ⟨_, outcome⟩ | ⟨email, _, _, outcome⟩ | ⟨email, route, _, routed, outcome⟩
    · rw [outcome]
      exact ⟨complies, nothing⟩
    · rw [outcome]
      exact ⟨(complies.lookup regex email).2, nothing⟩
    · rw [outcome]
      obtain ⟨allowed, after⟩ := complies.lookup regex email
      refine ⟨after, fun target member => ?_⟩
      have same : target = route.targetUrl := by
        simpa [WebhookOutcome.effects, HttpEffect.target, relayedTo] using member
      rw [same]
      exact allowed route routed

end Webhooks

/-! ## Pull cycles -/

section Cycles

/-- The routes of a cycle comply, and so does what it has forwarded so far. -/
def ForwardsComplying (policy : Text → Prop) (state : Forwarding) : Prop :=
  Complies policy state.router ∧
    ∀ event ∈ state.events, ∀ target, event.target = some target → policy target

variable {state : Forwarding} {body : Bytes}

theorem ForwardsComplying.record (complies : ForwardsComplying policy state)
    {event : DeliveryEvent} (allowed : ∀ target, event.target = some target → policy target) :
    ForwardsComplying policy (Pull.record state event) := by
  refine ⟨complies.1, fun other member => ?_⟩
  rcases List.mem_append.mp member with old | new
  · exact complies.2 other old
  · obtain rfl := List.mem_singleton.mp new
    exact allowed

theorem ForwardsComplying.deliver (complies : ForwardsComplying policy state) {turn : DeliveryTurn}
    (quiet : KeepsPolicy policy turn.change) (delivery : BatchDelivery) :
    ForwardsComplying policy (Pull.deliver regex turn body state delivery) := by
  have begun : ForwardsComplying policy { state with
      clock := state.clock + turn.wait
      router := turn.change state.router } := ⟨quiet state.router complies.1, complies.2⟩
  rw [Pull.deliver]
  dsimp only
  split
  · exact begun.record fun _ sent => by cases sent
  · obtain ⟨allowed, after⟩ := begun.1.lookup regex delivery.email
    rw [Pull.forward]
    split
    · next router missing =>
        rw [missing] at after
        have left : ForwardsComplying policy { state with
            clock := state.clock + turn.wait
            router := router } := ⟨after, complies.2⟩
        exact left.record fun _ sent => by cases sent
    · next route router found =>
        rw [found] at after allowed
        have left : ForwardsComplying policy { state with
            clock := state.clock + turn.wait + turn.latency
            router := router } := ⟨after, complies.2⟩
        have sent := @ForwardsComplying.record policy _ left (.forwarded delivery
          ⟨route.targetUrl, requestHeaders turn.order delivery.headers, body⟩
          (state.clock + turn.wait) (state.clock + turn.wait + turn.latency) turn.answer)
          fun target same => by
            obtain rfl := Option.some.inj same
            exact allowed route rfl
        dsimp only
        split
        · exact sent
        · exact sent

theorem ForwardsComplying.deliverBatch {turns : Nat → DeliveryTurn}
    (quiet : ∀ place, KeepsPolicy policy (turns place).change)
    (complies : ForwardsComplying policy state) (deliveries : List BatchDelivery) :
    ForwardsComplying policy (Pull.deliverBatch regex body turns state deliveries) := by
  induction deliveries generalizing turns state with
  | nil => exact complies
  | cons delivery deliveries induction =>
      exact induction (fun place => quiet (place + 1)) (complies.deliver (quiet 0) delivery)

theorem ForwardsComplying.deliverBatches {turns : Nat → DeliveryTurn}
    (quiet : ∀ place, KeepsPolicy policy (turns place).change)
    (complies : ForwardsComplying policy state) (batches : List PendingBatch) :
    ForwardsComplying policy (Pull.deliverBatches json regex turns state batches).1 := by
  induction batches generalizing turns state with
  | nil => exact complies
  | cons batch batches induction =>
      rw [Pull.deliverBatches]
      split
      · exact complies
      · exact induction (fun place => quiet _) (complies.deliverBatch quiet batch.deliveries)

/-- A cycle forwards to complying targets only. -/
theorem Complies.cycle {loop : PullLoop} {turn : CycleTurn} (config : PullSystemConfig)
    (complies : Complies policy loop.router) (quiet : KeepsPolicy policy turn.change)
    (quiet_deliveries : ∀ place, KeepsPolicy policy (turn.deliveries place).change) :
    Complies policy (Pull.cycle config json regex loop turn).router ∧
      ∀ target ∈ (((Pull.cycle config json regex loop turn).cycles.drop loop.cycles.length).flatMap
        CycleLog.events).filterMap DeliveryEvent.target, policy target := by
  rw [Pull.cycle]
  split
  · simp [complies]
  split
  · simp [complies]
  split
  · next fetched _ =>
      have begun : ForwardsComplying policy (beginForwarding turn loop) :=
        ⟨quiet loop.router complies, fun _ member => absurd member List.not_mem_nil⟩
      have handled := @ForwardsComplying.deliverBatches policy json regex _ _ quiet_deliveries begun
        fetched
      rw [Pull.finishCycle]
      dsimp only
      refine ⟨handled.1, fun target member => ?_⟩
      rw [List.drop_left, List.flatMap_singleton] at member
      obtain ⟨event, listed, same⟩ := List.mem_filterMap.mp member
      exact handled.2 event listed target same
  · dsimp only
    refine ⟨quiet loop.router complies, fun target member => ?_⟩
    rw [List.drop_left, List.flatMap_singleton] at member
    exact absurd member List.not_mem_nil

end Cycles
end Policies

/-! ## Requests to the admin API -/

section Administration

variable {world : AdminWorld} {state : AdminState} {request : Incoming} {router : ProfileRouter}

/-- A path without a route is answered with a status alone. -/
theorem select_admin_unrouted (foreign : isAdminPath request.path = false) :
    (Admin.buildAdminRouter world state).select request.path =
      guarded (Admin.adminCheck state.adminAllowedIps) fun _ router => (.status 404, router) := by
  have health := @matchSegments_plain Admin.healthPath (by decide) request.path
  have routes := @matchSegments_plain Admin.routesPath (by decide) request.path
  have route := @matchSegments_plain Admin.routePath (by decide) request.path
  simp only [isAdminPath, List.contains_cons, List.contains_nil, Bool.or_false,
    Bool.or_eq_false_iff, beq_eq_false_iff_ne] at foreign
  rw [Admin.buildAdminRouter, Router.select_guardedBy, Router.select]
  simp only [Router.routed_nestRoot, Router.routed_route, Router.routed_new, health, routes, route,
    if_neg foreign.1, if_neg foreign.2.1, if_neg foreign.2.2]
  rfl

theorem select_health : (Admin.buildAdminRouter world state).select Admin.healthPath =
    guarded (Admin.adminCheck state.adminAllowedIps)
      (onMethod .status [(.get, Admin.health state)]) := by
  have health : matchSegments ((segments Admin.healthPath).map Segment.ofText)
      (segments Admin.healthPath) = some [] := by decide
  rw [Admin.buildAdminRouter, Router.select_guardedBy, Router.select]
  simp [health]

/-- The handler of a `DELETE` is given no email. -/
theorem select_routePath : (Admin.buildAdminRouter world state).select Admin.routePath =
    guarded (Admin.adminCheck state.adminAllowedIps)
      (onMethod .status [(.delete, Admin.deleteRoute world [])]) :=
  select_route (by decide)

/-- A request that is not admitted changes nothing. -/
theorem guarded_unchanged {next : Service ProfileRouter AdminReply}
    (refused : ¬ Admits (Admin.adminCheck state.adminAllowedIps) request router) :
    (guarded (Admin.adminCheck state.adminAllowedIps) next request router).2 = router := by
  obtain ⟨check, found, verdict⟩ : ∃ check,
      Admin.adminCheck state.adminAllowedIps = some check ∧ (check request router).1 ≠ none := by
    simpa [Admits] using refused
  have same := Admin.passed_adminCheck state.adminAllowedIps request router
  rw [found, passed] at same
  rw [found, guarded]
  cases decided : check request router with
  | mk refusal after =>
      rw [decided] at same verdict
      cases refusal with
      | none => exact absurd rfl verdict
      | some refusal => exact same

/-- Whether the admin allowlist admits a request does not depend on the routes. -/
theorem admittedToAdmin_of_admits
    (admits : Admits (Admin.adminCheck state.adminAllowedIps) request router) :
    AdmittedToAdmin state request := by
  intro other present found
  have admitted := admits present found
  simp only [Admin.adminCheck] at found
  split at found
  · cases found
  · obtain rfl := Option.some.inj found
    simp only [Admin.checkAdminIp] at admitted ⊢
    split at admitted
    · next listed => rw [if_pos listed]
    · cases admitted

/-- On the path of the routes, only a `POST` with a complete body changes anything. -/
theorem routes_changes (path : request.path = Admin.routesPath) :
    ((Admin.buildAdminRouter world state).handle request router).2 = router ∨
      ∃ body, AdmittedToAdmin state request ∧ Makes world request (.post body) ∧
        ((Admin.buildAdminRouter world state).handle request router).2 =
          updateRoute (world.writeAt request.arrival) router body.email body.host body.port := by
  by_cases admits : Admits (Admin.adminCheck state.adminAllowedIps) request router
  · have admitted := admittedToAdmin_of_admits admits
    by_cases makes : ∃ body, Makes world request (.post body)
    · obtain ⟨body, makes⟩ := makes
      exact Or.inr ⟨body, admitted, makes, handle_post admitted makes⟩
    · left
      rw [Router.handle, path, select_routes, guarded_admitted admitted]
      rw [onMethod_get_post]
      split
      · next post =>
          rw [Admin.createRoute]
          split
          · rfl
          · next body extracted =>
              dsimp only
              rw [ProfileRouter.createRoute]
              refine if_pos (by_contra fun complete => makes ⟨body, post, path, extracted, ?_⟩)
              obtain ⟨email, host, port⟩ : body.email ≠ [] ∧ body.host ≠ [] ∧ body.port ≠ 0 := by
                simpa [not_or] using complete
              exact ⟨email, host, UInt16.pos_iff_ne_zero.mpr port⟩
      · refine onMethod_state ?_ _ _
        rintro handler listed request router
        obtain rfl := List.mem_singleton.mp listed
        rfl
  · left
    rw [Router.handle, path, select_routes]
    exact guarded_unchanged admits

/-- The admin API changes the routes only by registering one for an admitted client. -/
theorem admin_changes (world : AdminWorld) (state : AdminState) (request : Incoming)
    (router : ProfileRouter) :
    ((Admin.buildAdminRouter world state).handle request router).2 = router ∨
      ∃ body, AdmittedToAdmin state request ∧ Makes world request (.post body) ∧
        ((Admin.buildAdminRouter world state).handle request router).2 =
          updateRoute (world.writeAt request.arrival) router body.email body.host body.port := by
  rw [Router.handle]
  cases own : isAdminPath request.path with
  | false =>
      left
      rw [select_admin_unrouted own]
      exact (guarded_state fun _ => rfl).trans (Admin.passed_adminCheck _ _ _)
  | true =>
      have listed : request.path = Admin.healthPath ∨ request.path = Admin.routesPath ∨
          request.path = Admin.routePath := by simpa [isAdminPath] using own
      rcases listed with path | path | path
      · left
        rw [path, select_health]
        refine (guarded_state fun router => onMethod_state ?_ _ _).trans
          (Admin.passed_adminCheck _ _ _)
        rintro handler listed request router
        obtain rfl := List.mem_singleton.mp listed
        rfl
      · exact routes_changes path
      · left
        rw [path, select_routePath]
        refine (guarded_state fun router => onMethod_state ?_ _ _).trans
          (Admin.passed_adminCheck _ _ _)
        rintro handler listed request router
        obtain rfl := List.mem_singleton.mp listed
        rfl

end Administration

/-! ## Runs -/

section Runs

variable {policy : Text → Prop} {deployment : Deployment} {state : BridgeState}

/-- A registered route complies when its target does. -/
theorem Complies.updateRoute {router : ProfileRouter} (complies : Complies policy router)
    {email hostOrUrl : Text} {port : UInt16}
    (allowed : policy (routeOfRequest email hostOrUrl port).targetUrl) (disk : DiskWrite) :
    Complies policy (updateRoute disk router email hostOrUrl port) :=
  ⟨complies.exact.insert allowed, complies.patterns⟩

/-- Answering a request keeps the routes complying, and mail is for complying targets only. -/
theorem Complies.serve {state : AppState} {turn : HttpTurn}
    (complies : Complies policy state.router)
    (takes : TakesComplying policy deployment (.request turn)) :
    Complies policy (serve deployment.app turn state).2.router ∧
      ∀ target ∈ (AimailBridge.serve deployment.app turn state).1.effects.filterMap
        HttpEffect.target, policy target := by
  have nothing : ∀ target ∈ ([] : List HttpEffect).filterMap HttpEffect.target, policy target :=
    fun _ member => absurd member List.not_mem_nil
  rw [serve_eq, answer, HttpOutcome.secured]
  dsimp only
  split
  · rw [pushAnswer, pushService]
    dsimp only
    generalize ((buildPushRouter deployment.app.vhosts deployment.app.push).handle
      turn.request.toIncoming state.windows).1 = reply
    cases reply with
    | status code => exact ⟨complies, nothing⟩
    | webhook body => exact complies.handleWebhook takes.2 _
    | vhost route =>
        refine ⟨complies, fun target member => ?_⟩
        simp [runHandler, List.filterMap_map, Function.comp_def, HttpEffect.target] at member
  · refine ⟨?_, nothing⟩
    change Complies policy ((Admin.buildAdminRouter turn.admin deployment.app.admin).handle
      turn.request.toIncoming state.router).2
    rcases admin_changes turn.admin deployment.app.admin turn.request.toIncoming state.router with
      same | ⟨body, admitted, makes, registered⟩
    · rw [same]
      exact complies
    · rw [registered]
      exact complies.updateRoute (takes.1 body admitted makes) _

/-- A reload takes in what the file names. -/
theorem Complies.installRoutes {fromStr : Text → Option (HashMap Text Text)}
    {content : Option Text} {order : IterationOrder Text ProfileRoute}
    (takes : ∀ key route, (loadRoutesFile fromStr content).lookup key = some route →
      policy (if isRegexPattern key then defaultTarget route.host route.port
        else route.targetUrl)) (regex : RegexCrate) (router : ProfileRouter) :
    Complies policy (installRoutes regex order (loadRoutesFile fromStr content) router) := by
  rw [installRoutes_eq]
  refine ⟨fun email route found => ?_, fun pattern member => ?_⟩
  · rw [lookup_exactRoutes] at found
    split at found
    · cases found
    · next exact_key =>
        have allowed := takes email route found
        rwa [if_neg exact_key] at allowed
  · obtain ⟨key, route, listed, is_pattern, _, rfl⟩ := mem_filePatterns.mp member
    have allowed := takes key route (order.mem_walk_iff.mp listed)
    rwa [if_pos is_pattern] at allowed

/-- One event keeps the routes complying, and its mail is for complying targets only. -/
theorem Complies.step (complies : Complies policy state.app.router) {event : BridgeEvent}
    (takes : TakesComplying policy deployment event) :
    Complies policy (state.step deployment event).app.router ∧
      ∀ target ∈ targets deployment state event, policy target := by
  have nothing : ∀ target ∈ ([] : List Text), policy target :=
    fun _ member => absurd member List.not_mem_nil
  cases event with
  | request turn => exact complies.serve takes
  | install content order => exact ⟨Complies.installRoutes takes _ _, nothing⟩
  | remove disk email => exact ⟨⟨complies.exact.erase email, complies.patterns⟩, nothing⟩
  | cycle system turn =>
      have begun : Complies policy
          { state.loops system with router := state.app.router }.router := complies
      exact begun.cycle _ takes.1 takes.2

theorem Complies.run {events : List BridgeEvent} (complies : Complies policy state.app.router)
    (takes : ∀ event ∈ events, TakesComplying policy deployment event) :
    SendsOnlyTo policy deployment state events := by
  induction events generalizing state with
  | nil => exact fun _ member => absurd member List.not_mem_nil
  | cons event events induction =>
      obtain ⟨first, later⟩ := List.forall_mem_cons.mp takes
      obtain ⟨after, allowed⟩ := complies.step first
      intro target member
      rcases List.mem_append.mp member with now | rest
      · exact allowed target now
      · exact induction after later target rest

/-- A bridge with one route. -/
def localBridge : Deployment where
  app := openApp
  fromStr := Toml.fragment
  systems _ := ⟨"http://relay.x.org".toList, "bridge".toList, 10⟩

/-- What the bridge starts from with these routes. -/
def startedWith (router : ProfileRouter) : BridgeState :=
  ⟨⟨router, ∅⟩, fun _ => Pull.start 0 router⟩

end Runs

/-! ## Targets are URLs -/

/-- A target with a scheme that a client can post to. -/
def IsHttp (target : Text) : Prop :=
  httpPrefix <+: target ∨ httpsPrefix <+: target

theorem isHttp_defaultTarget (host : Text) (port : UInt16) : IsHttp (defaultTarget host port) :=
  Or.inl ⟨hostColonPort host port ++ defaultPath, by rw [defaultTarget, List.append_assoc]⟩

theorem isHttp_fromUrl (email url : Text) : IsHttp (fromUrl email url).targetUrl := by
  rw [fromUrl_targetUrl, urlScheme, List.append_assoc]
  split
  · exact Or.inr ⟨urlRest (trim url), rfl⟩
  · exact Or.inl ⟨urlRest (trim url), rfl⟩

theorem isHttp_routeOfRequest (email hostOrUrl : Text) (port : UInt16) :
    IsHttp (routeOfRequest email hostOrUrl port).targetUrl := by
  rw [routeOfRequest]
  split
  · exact isHttp_fromUrl email hostOrUrl
  · exact isHttp_defaultTarget hostOrUrl port

theorem isHttp_routeOfValue {key value : Text} {route : ProfileRoute}
    (read : routeOfValue key value = some route) : IsHttp route.targetUrl := by
  rw [routeOfValue] at read
  dsimp only at read
  split at read
  · obtain rfl := Option.some.inj read
    exact isHttp_fromUrl key (trim value)
  · obtain ⟨⟨host, port⟩, _, rfl⟩ := Option.map_eq_some_iff.mp read
    exact isHttp_defaultTarget host port

/-- Other tasks leave only routes to URLs behind. -/
def BridgeEvent.KeepsUrls : BridgeEvent → Prop
  | .request turn => ∀ place, KeepsPolicy IsHttp (turn.webhook.turns place).change
  | .cycle _ turn =>
      KeepsPolicy IsHttp turn.change ∧ ∀ place, KeepsPolicy IsHttp (turn.deliveries place).change
  | _ => True

/-- Whatever is registered and whatever a routes file holds, a bridge that starts without routes
never hands out mail for anything but an `http` or `https` URL, as long as other tasks leave only
routes to such URLs behind. -/
theorem targets_http (deployment : Deployment) (state : BridgeState) (events : List BridgeEvent)
    (fresh : state.app.router.routes = ∅ ∧ state.app.router.regexPatterns = [])
    (quiet : ∀ event ∈ events, event.KeepsUrls) :
    SendsOnlyTo IsHttp deployment state events := by
  have complies : Complies IsHttp state.app.router := by
    refine ⟨?_, ?_⟩
    · rw [fresh.1]
      exact HashMap.all_empty _
    · rw [fresh.2]
      exact fun _ member => absurd member List.not_mem_nil
  refine complies.run fun event member => ?_
  have kept := quiet event member
  cases event with
  | request turn => exact ⟨fun body _ _ => isHttp_routeOfRequest _ _ _, kept⟩
  | install content order =>
      intro key route found
      obtain ⟨value, read⟩ := routeOfValue_of_loadRoutesFile found
      split
      · exact isHttp_defaultTarget route.host route.port
      · exact isHttp_routeOfValue read
  | remove disk email => trivial
  | cycle system turn => exact kept

theorem targets_http_sample :
    SendsOnlyTo IsHttp localBridge (startedWith (ProfileRouter.new none))
      [.install (some "\"bot@x.org\" = \"10.0.0.7:8645\"".toList) (.inOrder _ _),
        .request webhookTurn] := by
  refine targets_http localBridge (startedWith (ProfileRouter.new none)) _ ⟨rfl, rfl⟩
    fun event member => ?_
  rcases List.mem_cons.mp member with rfl | last
  · trivial
  · obtain rfl := List.mem_singleton.mp last
    exact fun _ router complies => complies

end AimailBridge
