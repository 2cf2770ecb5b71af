import AimailBridge.Push.FanOut
import AimailBridge.Server.Relaying

/-!
# Who decides where mail goes

Clients outside the admin allowlist have no say in the routing.  They make the bridge remember
pattern routes, but a remembered route is what the lookup would have found anyway; so their requests
can be struck from a history of the server without changing where an email is routed.  The history
is one of requests that are answered one after the other while nothing else changes the routes: a
lookup that overlaps a registration can undo it, and what has been remembered outlives the pattern
once it has been written to the routes file.
-/

namespace AimailBridge

open Foundation Text ProfileRouter Push

/-- Two routers have the same patterns and route every email alike. -/
structure SameRouting (regex : RegexCrate) (left right : ProfileRouter) : Prop where
  /-- The patterns are the same. -/
  patterns : left.regexPatterns = right.regexPatterns
  /-- Every lookup finds the same route. -/
  lookups : RoutesAlike regex left right

/-- A turn is one of a client that the admin allowlist admits. -/
def Insider (config : AppConfig) (turn : HttpTurn) : Prop :=
  Lists config.admin.adminAllowedIps (turn.request.peer.getD .unspecified)

instance (config : AppConfig) (turn : HttpTurn) : Decidable (Insider config turn) :=
  inferInstanceAs (Decidable (Lists _ _))

/-- While a batch is handled, other tasks leave the routing alone. -/
def Undisturbed (regex : RegexCrate) (turn : HttpTurn) : Prop :=
  ∀ place router, SameRouting regex ((turn.webhook.turns place).change router) router

section Alike

variable {regex : RegexCrate} {left middle right router : ProfileRouter} {email : Text}

theorem SameRouting.refl (regex : RegexCrate) (router : ProfileRouter) :
    SameRouting regex router router :=
  ⟨rfl, fun _ => rfl⟩

theorem SameRouting.symm (alike : SameRouting regex left right) : SameRouting regex right left :=
  ⟨alike.patterns.symm, fun email => (alike.lookups email).symm⟩

theorem SameRouting.trans (first : SameRouting regex left middle)
    (second : SameRouting regex middle right) : SameRouting regex left right :=
  ⟨first.patterns.trans second.patterns,
    fun email => (first.lookups email).trans (second.lookups email)⟩

/-! ## Lookups -/

theorem lookup_patterns (regex : RegexCrate) (router : ProfileRouter) (email : Text) :
    (lookup regex router email).2.regexPatterns = router.regexPatterns := by
  rw [ProfileRouter.lookup]
  split
  · rfl
  · split <;> rfl

theorem alike_lookup (regex : RegexCrate) (router : ProfileRouter) (email : Text) :
    SameRouting regex (lookup regex router email).2 router :=
  ⟨lookup_patterns regex router email, fun other => lookup_lookup router email other⟩

theorem matchPatterns_congr (patterns : left.regexPatterns = right.regexPatterns) (email : Text) :
    matchPatterns regex left email = matchPatterns regex right email := by
  rw [matchPatterns, matchPatterns, patterns]

/-! ## Administration -/

/-- Registering a route does the same to routers that route alike. -/
theorem alike_updateRoute (alike : SameRouting regex left right) (disk : DiskWrite)
    (email hostOrUrl : Text) (port : UInt16) :
    SameRouting regex (updateRoute disk left email hostOrUrl port)
      (updateRoute disk right email hostOrUrl port) := by
  refine ⟨alike.patterns, fun other => ?_⟩
  by_cases same : other = email
  · subst same
    rw [lookup_exact (AList.lookup_insert left.routes),
      lookup_exact (AList.lookup_insert right.routes)]
  · have kept := alike.lookups other
    rw [lookup_eq, lookup_eq] at kept ⊢
    rw [updateRoute_routes, updateRoute_routes, AList.lookup_insert_ne same,
      AList.lookup_insert_ne same]
    exact kept

/-- Removing a route leaves the email to the patterns. -/
theorem alike_removeRoute (alike : SameRouting regex left right) (disk : DiskWrite)
    (email : Text) :
    SameRouting regex (removeRoute disk left email) (removeRoute disk right email) := by
  refine ⟨alike.patterns, fun other => ?_⟩
  have erased : ∀ router, (removeRoute disk router email).routes = router.routes.erase email :=
    fun _ => rfl
  rw [lookup_eq, lookup_eq, erased, erased]
  by_cases same : other = email
  · subst same
    rw [AList.lookup_erase, AList.lookup_erase]
    exact congrArg _ (congrArg _ (matchPatterns_congr alike.patterns other))
  · have kept := alike.lookups other
    rw [lookup_eq, lookup_eq] at kept
    rw [AList.lookup_erase_ne same, AList.lookup_erase_ne same]
    exact kept

end Alike

/-! ## Requests of anybody to the push server -/

section Webhooks

variable {json : JsonCrate} {regex : RegexCrate} {forward : List Text} {body payload : Bytes}
  {router : ProfileRouter} {request : Incoming} {world : WebhookWorld}

theorem alike_handleEntry {turn : EntryTurn}
    (quiet : ∀ router, SameRouting regex (turn.change router) router) (router : ProfileRouter)
    (entry : Json) :
    SameRouting regex (handleEntry regex forward body turn router entry).1 router := by
  rw [handleEntry]
  split
  · exact quiet router
  · next email _ =>
      have looked := (alike_lookup regex (turn.change router) email).trans (quiet router)
      split
      · next left missing =>
          rw [missing] at looked
          exact looked
      · next route left found =>
          rw [found] at looked
          exact looked

theorem alike_handleEntries {turns : Nat → EntryTurn}
    (quiet : ∀ place router, SameRouting regex ((turns place).change router) router)
    (router : ProfileRouter) (entries : List Json) :
    SameRouting regex (handleEntries regex forward body turns router entries).1 router := by
  induction entries generalizing turns router with
  | nil => exact SameRouting.refl regex router
  | cons entry entries induction =>
      rw [handleEntries]
      exact (induction (fun place => quiet (place + 1)) _).trans
        (alike_handleEntry (quiet 0) router entry)

theorem alike_handleBatchWebhook {turns : Nat → EntryTurn}
    (quiet : ∀ place router, SameRouting regex ((turns place).change router) router)
    (router : ProfileRouter) (payload : Bytes) :
    SameRouting regex (handleBatchWebhook json regex forward turns router payload).2.1 router := by
  rw [handleBatchWebhook]
  split
  · exact SameRouting.refl regex router
  · split
    · exact SameRouting.refl regex router
    · split
      · exact SameRouting.refl regex router
      · exact alike_handleEntries quiet router _

/-- A webhook of whatever kind leaves the routing alone. -/
theorem alike_handleWebhook
    (quiet : ∀ place router, SameRouting regex ((world.turns place).change router) router)
    (router : ProfileRouter) :
    SameRouting regex (handleWebhook json regex forward world router request body).router
      router := by
  rw [handleWebhook]
  split
  · exact alike_handleBatchWebhook quiet router body
  · rcases handleSingle_cases regex forward world router request body with
      ⟨_, outcome⟩ | ⟨email, _, _, outcome⟩ | ⟨email, route, _, _, outcome⟩
    · rw [outcome]
      exact SameRouting.refl regex router
    · rw [outcome]
      exact alike_lookup regex router email
    · rw [outcome]
      exact alike_lookup regex router email

end Webhooks

section Serving

variable {config : AppConfig} {turn : HttpTurn} {state other : AppState}

/-- The push server leaves the routing alone. -/
theorem alike_pushAnswer (quiet : Undisturbed config.regex turn) (state : AppState) :
    SameRouting config.regex (pushAnswer config turn state).2.router state.router := by
  rw [pushAnswer, pushService]
  dsimp only
  generalize ((buildPushRouter config.vhosts config.push).handle turn.request.toIncoming
    state.windows).1 = reply
  cases reply with
  | status code => exact SameRouting.refl config.regex state.router
  | webhook body => exact alike_handleWebhook quiet state.router
  | vhost route => exact SameRouting.refl config.regex state.router

/-! ## Requests to the admin API -/

/-- Every request to the admin API does the same to routers that route alike. -/
theorem keepsRelated_buildAdminRouter (regex : RegexCrate) (world : AdminWorld)
    (state : AdminState) (path : Text) :
    KeepsRelated (SameRouting regex) ((Admin.buildAdminRouter world state).select path) := by
  have fallback : ∀ path, KeepsRelated (SameRouting regex)
      ((Router.new AdminReply.status : Router ProfileRouter AdminReply).select path) :=
    fun _ _ _ _ alike => alike
  have creates : KeepsRelated (SameRouting regex) (Admin.createRoute world state) := by
    intro request left right alike
    simp only [Admin.createRoute]
    split
    · exact alike
    · simp only [ProfileRouter.createRoute]
      split
      · exact alike
      · exact alike_updateRoute alike _ _ _ _
  have deletes : ∀ captured,
      KeepsRelated (SameRouting regex) (Admin.deleteRoute world captured) := by
    intro captured request left right alike
    simp only [Admin.deleteRoute]
    split
    · exact alike
    · exact alike_removeRoute alike _ _
  rw [Admin.buildAdminRouter, Router.select_guardedBy]
  refine keepsRelated_guarded ?_ (Router.keepsRelated_nestRoot fallback ?_ path)
  · intro present found request left right alike
    simp only [Admin.adminCheck] at found
    split at found
    · cases found
    · obtain rfl := Option.some.inj found
      simp only [Admin.checkAdminIp]
      split <;> exact ⟨rfl, alike⟩
  · refine Router.keepsRelated_route (Router.keepsRelated_route (Router.keepsRelated_route fallback
      fun _ => ?_) fun _ => ?_) fun captured => ?_
    · refine keepsRelated_onMethod fun handler listed => ?_
      obtain rfl := List.mem_singleton.mp listed
      exact keepsRelated_of_state fun _ _ => rfl
    · refine keepsRelated_onMethod fun handler listed => ?_
      rcases List.mem_cons.mp listed with rfl | post
      · exact keepsRelated_of_state fun _ _ => rfl
      · obtain rfl := List.mem_singleton.mp post
        exact creates
    · refine keepsRelated_onMethod fun handler listed => ?_
      obtain rfl := List.mem_singleton.mp listed
      exact deletes captured

/-- A client outside the allowlist is refused before anything happens. -/
theorem adminAnswer_outsider (listed : parseIpList config.admin.adminAllowedIps ≠ [])
    (outsider : ¬ Insider config turn) (state : AppState) :
    (adminAnswer config turn state).2 = state := by
  have refused : Admin.checkAdminIp (parseIpList config.admin.adminAllowedIps)
      turn.request.toIncoming state.router = (some (.status 403), state.router) := by
    rw [Admin.checkAdminIp]
    refine if_neg (not_or.mpr ⟨listed, ?_⟩)
    rw [Insider, lists_iff] at outsider
    exact outsider
  rw [adminAnswer, adminService, Router.handle, Admin.buildAdminRouter, Router.select_guardedBy,
    Admin.adminCheck, if_neg listed, guarded, refused]

/-! ## Histories -/

/-- A request of an outsider leaves the routing alone. -/
theorem serve_outsider (listed : parseIpList config.admin.adminAllowedIps ≠ [])
    (outsider : ¬ Insider config turn) (quiet : Undisturbed config.regex turn)
    (state : AppState) :
    SameRouting config.regex (serve config turn state).2.router state.router := by
  rw [serve_eq, answer]
  split
  · exact alike_pushAnswer quiet state
  · rw [adminAnswer_outsider listed outsider]
    exact SameRouting.refl config.regex state.router

/-- A request of anybody does the same to states that route alike. -/
theorem serve_alike (quiet : Undisturbed config.regex turn)
    (alike : SameRouting config.regex state.router other.router) :
    SameRouting config.regex (serve config turn state).2.router
      (serve config turn other).2.router := by
  rw [serve_eq, serve_eq, answer, answer]
  split
  · exact ((alike_pushAnswer quiet state).trans alike).trans (alike_pushAnswer quiet other).symm
  · exact keepsRelated_buildAdminRouter config.regex turn.admin config.admin turn.request.path
      turn.request.toIncoming state.router other.router alike

/-- Among requests that are answered one after the other, with nothing else changing the routes,
those of outsiders have no influence on the routing: the server routes every email as after the
requests of the admitted clients alone. -/
theorem outsiders_without_influence (config : AppConfig) (state : AppState)
    (turns : List HttpTurn) (listed : parseIpList config.admin.adminAllowedIps ≠ [])
    (quiet : ∀ turn ∈ turns, Undisturbed config.regex turn) :
    SameRouting config.regex (serveAll config state turns).router
      (serveAll config state (turns.filter fun turn => Insider config turn)).router := by
  have purge : ∀ state other : AppState, SameRouting config.regex state.router other.router →
      SameRouting config.regex (serveAll config state turns).router
        (serveAll config other (turns.filter fun turn => Insider config turn)).router := by
    induction turns with
    | nil => exact fun _ _ alike => alike
    | cons turn turns induction =>
        obtain ⟨quiet_first, quiet_rest⟩ := List.forall_mem_cons.mp quiet
        intro state other alike
        by_cases insider : Insider config turn
        · rw [List.filter_cons_of_pos (by simpa using insider)]
          exact induction quiet_rest _ _ (serve_alike quiet_first alike)
        · rw [List.filter_cons_of_neg (by simpa using insider)]
          exact induction quiet_rest _ _
            ((serve_outsider listed insider quiet_first state).trans alike)
  exact purge state state (SameRouting.refl config.regex state.router)

/-- A webhook from elsewhere. -/
def outsiderTurn : HttpTurn :=
  { webhookTurn with
    request := { webhookTurn.request with peer := some (.v4 0xCB007109) } }

/-- The registration of a route, by a client at this address. -/
def registerTurn (peer : IpAddr) : HttpTurn :=
  { webhookTurn with
    request := { createBot with
      peer := some peer
      pathAndQuery := some createBot.path } }

/-- The webhook and the registration of outsiders can be struck around that of an insider. -/
theorem outsiders_without_influence_sample : SameRouting RegexCrate.simple
    (serveAll openApp ⟨ProfileRouter.new none, ∅⟩
      [outsiderTurn, registerTurn (.v4 0x7F000001), registerTurn (.v4 0xCB007109),
        outsiderTurn]).router
    (serveAll openApp ⟨ProfileRouter.new none, ∅⟩ [registerTurn (.v4 0x7F000001)]).router :=
  outsiders_without_influence openApp ⟨ProfileRouter.new none, ∅⟩
    [outsiderTurn, registerTurn (.v4 0x7F000001), registerTurn (.v4 0xCB007109), outsiderTurn]
    (by decide) fun turn member => by
      simp only [List.mem_cons, List.not_mem_nil, or_false] at member
      rcases member with rfl | rfl | rfl | rfl <;> exact fun _ router => SameRouting.refl _ router

end Serving

end AimailBridge
