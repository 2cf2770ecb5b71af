import AimailBridge.Push.Server

/-!
# What the source filters cover

The webhook handler runs behind the filters; the virtual hosts, a fallback attached after them, run
before any filter has seen the request.
-/

namespace AimailBridge

open Foundation Text

variable {world : VhostWorld} {config : PushConfig} {request : Incoming} {windows : RateWindows}
  {ip : IpAddr}

/-- From whatever address and after whatever history the request comes, a handler runs only if the
address passes the configured filters. -/
def Covered (world : VhostWorld) (config : PushConfig) (request : Incoming) : Prop :=
  ∀ (history : List Incoming) (ip : IpAddr),
    (history ++ [request]).Pairwise (fun earlier later => earlier.arrival ≤ later.arrival) →
    ((buildPushRouter world config).handle { request with peer := some ip }
      ((buildPushRouter world config).stateAfter ∅ history)).1.handles = true →
    PassesFilters config ((buildPushRouter world config).stateAfter ∅ history) request.arrival ip

/-- The request is one that the webhook route hands to `handle_webhook`. -/
def TakenByWebhook (config : PushConfig) (request : Incoming) : Prop :=
  (webhookCapture request.path).isSome ∧ request.method = .post ∧
    request.body.length ≤ config.bodyLimitMb.toNat * 1024 * 1024 ∧ request.interrupted = false

/-- The request is one that the fallback hands to `handle_vhost`. -/
def TakenByVhost (world : VhostWorld) (config : PushConfig) (request : Incoming) : Prop :=
  webhookCapture request.path = none ∧
    (findVhost request (buildRoutes world config.sites)).isSome

/-- No filter turns any address away at any time. -/
def TurnsNobodyAway (config : PushConfig) : Prop :=
  parseIpList config.blacklistIps = [] ∧
    (config.allowedIps = [] ∨ ∀ ip, Lists config.allowedIps ip) ∧ config.rateLimit = 0

/-- The filters cover what takes the request: a webhook needs an allowlist with a valid entry, if it
has one at all and the blacklist leaves anybody; a virtual host needs filters that do nothing. -/
def FiltersCover (world : VhostWorld) (config : PushConfig) (request : Incoming) : Prop :=
  (TakenByWebhook config request → config.allowedIps = [] ∨ parseIpList config.allowedIps ≠ [] ∨
    ∀ ip, Lists config.blacklistIps ip) ∧
  (TakenByVhost world config request → TurnsNobodyAway config)

/-! ## Requests to virtual hosts -/

theorem sites_of_takenByVhost (taken : TakenByVhost world config request) : config.sites ≠ [] := by
  intro none_configured
  have found := taken.2
  rw [none_configured, buildRoutes, List.filterMap_nil, findVhost_nil] at found
  exact absurd found Bool.false_ne_true

/-- A virtual host takes its request whatever the filters say. -/
theorem handles_vhost (taken : TakenByVhost world config request) :
    ((buildPushRouter world config).handle { request with peer := some ip } windows).1.handles =
      true := by
  obtain ⟨route, found⟩ := Option.isSome_iff_exists.mp taken.2
  have same : findVhost { request with peer := some ip } (buildRoutes world config.sites) =
      findVhost request (buildRoutes world config.sites) := rfl
  rw [Router.handle, select_unmatched taken.1 (sites_of_takenByVhost taken), vhostFallback, same,
    found]
  rfl

/-- A request that neither takes is answered by the server itself. -/
theorem handles_unmatched (unmatched : webhookCapture request.path = none)
    (handled : ((buildPushRouter world config).handle { request with peer := some ip }
      windows).1.handles = true) : TakenByVhost world config request := by
  refine ⟨unmatched, ?_⟩
  by_cases sites : config.sites = []
  · rw [Router.handle, select_notFound unmatched sites, handles_filtered rfl] at handled
    exact absurd handled.2.2.2 Bool.false_ne_true
  · rw [Router.handle, select_unmatched unmatched sites, vhostFallback] at handled
    cases found : findVhost request (buildRoutes world config.sites) with
    | some route => rfl
    | none =>
        have same : findVhost { request with peer := some ip } (buildRoutes world config.sites) =
            none := found
        rw [same] at handled
        exact absurd handled Bool.false_ne_true

/-! ## Requests to the webhook route -/

theorem handles_webhook {captured : List (Text × Text)}
    (captures : webhookCapture request.path = some captured) :
    ((buildPushRouter world config).handle { request with peer := some ip } windows).1.handles =
        true ↔
      (checkLimit config.rateLimit request.arrival ip windows).1 = true ∧
        (parseIpList config.allowedIps = [] ∨ Lists config.allowedIps ip) ∧
        ¬ Lists config.blacklistIps ip ∧ TakenByWebhook config request := by
  rw [Router.handle, select_webhook captures, handles_filtered rfl, webhookService_handles,
    TakenByWebhook, captures]
  simp

/-! ## Exhausting the limit -/

/-- A request that only the rate limiter is to see. -/
def knock (arrival : Instant) (ip : IpAddr) : Incoming where
  method := .get
  path := "/webhooks/x".toList
  uriHost := none
  headers := []
  body := []
  interrupted := false
  peer := some ip
  bodyLimit := none
  arrival := arrival

theorem capture_knock (arrival : Instant) (ip : IpAddr) :
    webhookCapture (knock arrival ip).path = some [("name".toList, "x".toList)] := by
  change webhookCapture "/webhooks/x".toList = _
  decide

/-- So many knocks at one moment bring an address' count up to their number. -/
theorem windows_knocks {arrival : Instant} (count : Nat) (positive : 1 ≤ count)
    (within : count ≤ config.rateLimit.toNat) :
    ((buildPushRouter world config).stateAfter ∅
      (List.replicate count (knock arrival ip))).lookup ip =
        some (arrival, UInt32.ofNat count) := by
  have limited : 0 < config.rateLimit := UInt32.lt_iff_toNat_lt.mpr (by
    simpa using Nat.lt_of_lt_of_le positive within)
  induction count, positive using Nat.le_induction with
  | base =>
      rw [List.replicate_one, ← List.nil_append [knock arrival ip], Router.stateAfter_concat,
        windows_webhook (capture_knock arrival ip) rfl]
      exact (checkLimit_first limited (AList.lookup_empty ip)).2
  | succ count positive induction =>
      have found := induction (Nat.le_of_succ_le within)
      have below : UInt32.ofNat count < config.rateLimit := by
        rw [UInt32.lt_iff_toNat_lt, UInt32.toNat_ofNat']
        exact Nat.lt_of_le_of_lt (Nat.mod_le _ _) within
      rw [List.replicate_succ', Router.stateAfter_concat,
        windows_webhook (capture_knock arrival ip) rfl]
      have counted := (checkLimit_count limited found).2 below
      rw [UInt32.ofNat_add]
      exact counted

/-- As many knocks as the limit allows exhaust it. -/
theorem exhausted (limited : 0 < config.rateLimit) (arrival : Instant) (ip : IpAddr) :
    (checkLimit config.rateLimit arrival ip ((buildPushRouter world config).stateAfter ∅
      (List.replicate config.rateLimit.toNat (knock arrival ip)))).1 = false := by
  have positive : 1 ≤ config.rateLimit.toNat := UInt32.lt_iff_toNat_lt.mp limited
  have found := @windows_knocks world config ip arrival _ positive (Nat.le_refl _)
  rw [UInt32.ofNat_toNat] at found
  have full := (checkLimit_count limited found).1
  simpa using full

theorem ordered_knocks (count : Nat) (request : Incoming) (ip : IpAddr) :
    (List.replicate count (knock request.arrival ip) ++ [request]).Pairwise
      fun earlier later => earlier.arrival ≤ later.arrival := by
  rw [List.pairwise_append]
  refine ⟨List.pairwise_replicate.mpr (Or.inr (Nat.le_refl _)), List.pairwise_singleton _ _, ?_⟩
  intro earlier knocked later last
  rw [List.eq_of_mem_replicate knocked, List.mem_singleton.mp last]
  exact Nat.le_refl request.arrival

/-! ## The exact condition -/

theorem turnsNobodyAway_of_covered (covered : Covered world config request)
    (taken : TakenByVhost world config request) : TurnsNobodyAway config := by
  have first : ∀ ip, PassesFilters config ∅ request.arrival ip := fun ip =>
    covered [] ip (List.pairwise_singleton _ _) (handles_vhost taken)
  refine ⟨?_, ?_, ?_⟩
  · by_contra valid
    obtain ⟨ip, blocked⟩ := exists_lists valid
    exact (first ip).notBlocked blocked
  · by_cases absent : config.allowedIps = []
    · exact Or.inl absent
    · exact Or.inr fun ip => (first ip).allowed absent
  · by_contra limited
    have positive : 0 < config.rateLimit := by
      rw [UInt32.pos_iff_ne_zero]
      exact limited
    have last := covered _ .unspecified
      (ordered_knocks config.rateLimit.toNat request .unspecified) (handles_vhost taken)
    have refused := @exhausted world config positive request.arrival .unspecified
    exact absurd (refused.symm.trans last.underLimit) Bool.false_ne_true

/-- A request is covered, whoever sends it and whatever came before it, exactly when the filters
cover what takes it. -/
theorem covered_iff (world : VhostWorld) (config : PushConfig) (request : Incoming) :
    Covered world config request ↔ FiltersCover world config request := by
  constructor
  · intro covered
    refine ⟨fun taken => ?_, turnsNobodyAway_of_covered covered⟩
    by_contra uncovered
    simp only [not_or, not_forall, not_not] at uncovered
    obtain ⟨configured, invalid, ip, free⟩ := uncovered
    obtain ⟨captured, captures⟩ := Option.isSome_iff_exists.mp taken.1
    have passes := covered [] ip (List.pairwise_singleton _ _)
      ((handles_webhook captures).mpr
        ⟨checkLimit_empty _ _ _, Or.inl invalid, free, taken⟩)
    exact not_lists invalid ip (passes.allowed configured)
  · rintro ⟨webhook, vhost⟩ history ip _ handled
    cases captures : webhookCapture request.path with
    | some captured =>
        obtain ⟨underLimit, allowed, free, taken⟩ := (handles_webhook captures).mp handled
        refine ⟨free, fun configured => ?_, underLimit⟩
        rcases allowed with invalid | listed
        · rcases webhook taken with absent | valid | everybody
          · exact absurd absent configured
          · exact absurd invalid valid
          · exact absurd (everybody ip) free
        · exact listed
    | none =>
        obtain ⟨free, allowed, unlimited⟩ := vhost (handles_unmatched captures handled)
        refine ⟨not_lists free ip, fun configured => ?_, ?_⟩
        · exact (allowed.resolve_left configured) ip
        · rw [unlimited, checkLimit, if_pos rfl]

/-- A server with a blacklisted address and one site. -/
def shopConfig : PushConfig where
  allowedIps := []
  blacklistIps := ["203.0.113.9".toList]
  rateLimit := 30
  bodyLimitMb := 20
  sites := [⟨"shop.example".toList, none, none, some "https://shop.example.org".toList⟩]

/-- A request for the site. -/
def shopRequest : Incoming where
  method := .get
  path := "/".toList
  uriHost := none
  headers := [("host".toList, asciiBytes "shop.example".toList)]
  body := []
  interrupted := false
  peer := none
  bodyLimit := none
  arrival := 0

/-- A blacklisted address is served by the site. -/
theorem blacklisted_served :
    ¬ Covered ⟨fun _ => false, fun _ => false⟩ shopConfig shopRequest := by
  intro covered
  have taken : TakenByVhost ⟨fun _ => false, fun _ => false⟩ shopConfig shopRequest :=
    ⟨by decide, by rfl⟩
  have passes := covered [] (.v4 0xCB007109) (List.pairwise_singleton _ _) (handles_vhost taken)
  exact passes.notBlocked (by decide)

end AimailBridge
