import AimailBridge.Router.Generated

/-!
# The route health check

A round groups the routes by the endpoint they lead to, probes every endpoint and counts the
failures of each in a row.  When an endpoint has failed often enough, the routes that the round
found for it are removed, each by its email.
-/

namespace AimailBridge

open Foundation Text ProfileRoute ProfileRouter

/-- `host:port` of a route's target. -/
def routeTargetKey (r : ProfileRoute) : Text :=
  let url := r.targetUrl
  let authority := (breakAt '/' (urlRest url)).1
  match stripPrefix ['['] authority with
  | some b =>
      match (splitOnce [']', ':'] b).bind fun (h, p) => (parseU16 p).map (h, ·) with
      | some (h, port) => hostColonPort ('[' :: h ++ [']']) port
      | none => hostColonPort ('[' :: trimEndMatches ']' b ++ [']']) 443
  | none =>
      match (rsplitOnce ':' authority).bind fun (h, p) => (parseU16 p).map (h, ·) with
      | some (h, port) => hostColonPort h port
      | none => hostColonPort authority (if httpsPrefix <+: url then 443 else 80)

/-- The settings and circumstances of one round. -/
structure HealthRound where
  /-- Failures in a row at which an endpoint counts as dead. -/
  failThreshold : UInt32
  /-- Whether a TCP connection to an endpoint succeeds in time. -/
  reachable : Text → UInt16 → Bool
  /-- The order in which the routes are walked. -/
  routeOrder : IterationOrder Text ProfileRoute
  /-- The order in which the endpoints are walked. -/
  targetOrder : IterationOrder Text (List Text)

/-- The emails of the routes to each endpoint. -/
def groupTargets (order : IterationOrder Text ProfileRoute) (router : ProfileRouter) :
    HashMap Text (List Text) :=
  (order.walk router.routes.entries).foldl (fun groups entry =>
    groups.insert (routeTargetKey entry.2)
      ((groups.lookup (routeTargetKey entry.2)).getD [] ++ [entry.2.email])) ∅

/-- The endpoint a target key is probed at. -/
def probedEndpoint (target : Text) : Option (Text × UInt16) :=
  (splitOnce [':'] target).bind fun (host, portStr) => (parseU16 portStr).map (host, ·)

/-- Probe one target: reset or advance its count of failures, and note it when it is dead. -/
def probeTarget (round : HealthRound) (state : HashMap Text UInt32 × List Text) (target : Text) :
    HashMap Text UInt32 × List Text :=
  let (failures, deadTargets) := state
  match probedEndpoint target with
  | none => state
  | some (host, port) =>
      if round.reachable host port then (failures.erase target, deadTargets)
      else
        let count := (failures.lookup target).getD 0 + 1
        (failures.insert target count,
          if round.failThreshold ≤ count then deadTargets ++ [target] else deadTargets)

/-- The targets of a round, in the order they are probed. -/
def roundTargets (round : HealthRound) (groups : HashMap Text (List Text)) : List Text :=
  (round.targetOrder.walk groups.entries).map Sigma.fst

/-- The emails whose routes a round removes. -/
def deadEmails (groups : HashMap Text (List Text)) (deadTargets : List Text) : List Text :=
  deadTargets.flatMap fun target => (groups.lookup target).getD []

/-- One round of route health checks, with the counts of failures it starts from and leaves. -/
def checkRoutes (round : HealthRound) (router : ProfileRouter) (failures : HashMap Text UInt32) :
    ProfileRouter × HashMap Text UInt32 :=
  if listRoutes router = [] then (router, failures)
  else
    let groups := groupTargets round.routeOrder router
    let (failures, deadTargets) :=
      (roundTargets round groups).foldl (probeTarget round) (failures, [])
    ((deadEmails groups deadTargets).foldl (removeRoute .done) router,
      deadTargets.foldl (fun failures target => failures.erase target) failures)

/-- An `https` URL without a port is probed at 443. -/
example : routeTargetKey (fromUrl "a@x.com".toList
    "https://10.0.0.5/webhooks/agentmail-inbound".toList) = "10.0.0.5:443".toList := by decide

/-! ## Emails of a group -/

/-- Every route is kept under its own email. -/
def Keyed (routes : HashMap Text ProfileRoute) : Prop :=
  routes.All fun email route => route.email = email

theorem foldl_groups {member : Text → Text → Prop} {entries : List (Σ _ : Text, ProfileRoute)}
    {groups : HashMap Text (List Text)}
    (each : ∀ entry ∈ entries, member (routeTargetKey entry.2) entry.2.email)
    (grouped : groups.All fun target emails => ∀ email ∈ emails, member target email) :
    (entries.foldl (fun groups entry =>
      groups.insert (routeTargetKey entry.2)
        ((groups.lookup (routeTargetKey entry.2)).getD [] ++ [entry.2.email])) groups).All
      fun target emails => ∀ email ∈ emails, member target email := by
  induction entries generalizing groups with
  | nil => exact grouped
  | cons entry entries induction =>
      apply induction
      · exact fun other inside => each other (List.mem_cons_of_mem entry inside)
      · refine grouped.insert fun email inside => ?_
        rcases List.mem_append.mp inside with old | new
        · cases found : groups.lookup (routeTargetKey entry.2) with
          | none => simp [found] at old
          | some emails =>
              rw [found, Option.getD_some] at old
              exact grouped _ emails found email old
        · obtain rfl := List.mem_singleton.mp new
          exact each entry List.mem_cons_self

/-- The emails of a group lead to its target. -/
theorem groupTargets_all (order : IterationOrder Text ProfileRoute) {router : ProfileRouter}
    (keyed : Keyed router.routes) :
    (groupTargets order router).All fun target emails => ∀ email ∈ emails,
      ∃ route, router.routes.lookup email = some route ∧ routeTargetKey route = target := by
  apply foldl_groups
  · intro entry walked
    have found : router.routes.lookup entry.1 = some entry.2 := order.mem_walk_iff.mp walked
    exact ⟨entry.2, (keyed entry.1 entry.2 found).symm ▸ found, rfl⟩
  · exact HashMap.all_empty _

/-! ## Routes under their emails -/

theorem keyed_routeOfValue {key value : Text} {route : ProfileRoute}
    (read : routeOfValue key value = some route) : route.email = key := by
  simp only [routeOfValue] at read
  split at read
  · rw [← Option.some.inj read]
    rfl
  · obtain ⟨⟨host, port⟩, _, rfl⟩ := Option.map_eq_some_iff.mp read
    rfl

theorem keyed_loadRoutesFile (fromStr : Text → Option (HashMap Text Text))
    (routesFile : Option Text) : Keyed (loadRoutesFile fromStr routesFile) := by
  intro email route found
  obtain ⟨value, read⟩ := routeOfValue_of_loadRoutesFile found
  exact keyed_routeOfValue read

variable {fromStr : Text → Option (HashMap Text Text)} {regex : RegexCrate}

theorem keyed_apply {router : ProfileRouter} (keyed : Keyed router.routes) (call : RouterCall) :
    Keyed (apply fromStr regex router call).routes := by
  cases call with
  | create disk email host port =>
      rw [apply, createRoute]
      split
      · exact keyed
      · exact HashMap.All.insert keyed (routeOfRequest_email email host port)
  | delete disk email => exact HashMap.All.erase keyed email
  | lookup email =>
      rw [apply, ProfileRouter.lookup]
      split
      · exact keyed
      · split
        · exact HashMap.All.insert keyed rfl
        · exact keyed
  | load order =>
      intro email route found
      rw [apply, loadFromFile_routes_lookup] at found
      split at found
      · simp at found
      · exact keyed_loadRoutesFile fromStr _ email route found
  | edit content => exact keyed

theorem keyed_run {router : ProfileRouter} (keyed : Keyed router.routes) (run : List RouterCall) :
    Keyed (calls fromStr regex router run).routes := by
  induction run generalizing router with
  | nil => exact keyed
  | cons call run induction => exact induction (keyed_apply keyed call)

/-- Every reachable table keeps each route under its own email. -/
theorem keyed_calls (routesFile : Option Text) (run : List RouterCall) :
    Keyed (calls fromStr regex (ProfileRouter.new routesFile) run).routes := by
  apply keyed_run
  exact HashMap.all_empty _

end AimailBridge
