import AimailBridge.Push.Coverage

/-!
# The order of the source filters

The filters run in the reverse of the order in which they are added.  The rate limiter is added
last, so it sees every webhook request first, also those that the blacklist is to turn away.
-/

namespace AimailBridge

open Foundation Text

variable {world : VhostWorld} {config : PushConfig} {request : Incoming} {windows : RateWindows}
  {ip : IpAddr}

/-- A webhook request that comes from an address on the blacklist. -/
structure FromBlacklisted (config : PushConfig) (request : Incoming) (ip : IpAddr) : Prop where
  /-- Its path is one of the webhook route. -/
  captured : (webhookCapture request.path).isSome
  /-- It comes from the address. -/
  peer : request.peer = some ip
  /-- Some valid entry of the blacklist contains the address. -/
  listed : Lists config.blacklistIps ip

/-- The blacklist decides a request first: the answer is 403 and no request has been counted. -/
def BlacklistFirst (world : VhostWorld) (config : PushConfig) (history : List Incoming)
    (request : Incoming) : Prop :=
  (buildPushRouter world config).handle request
      ((buildPushRouter world config).stateAfter ∅ history) =
    (.status 403, (buildPushRouter world config).stateAfter ∅ history)

/-- What the server answers to a blacklisted address, by the verdict of the rate limiter. -/
def blacklistedReply (admitted : Bool) : PushReply :=
  .status (if admitted then 403 else 429)

/-! ## Who answers -/

section Refusals

variable {σ ο : Type} {present : Check σ ο} {next : Service σ ο} {state after : σ} {refusal : ο}

theorem guarded_of_refused (refused : present request state = (some refusal, after)) :
    guarded (some present) next request state = (refusal, after) := by
  rw [guarded, refused]

end Refusals

/-- The allowlist and the blacklist both answer 403, and neither counts. -/
theorem refused_by_lists {next : Service RateWindows PushReply}
    (blacklisted : FromBlacklisted config request ip) :
    guarded (allowlistCheck .status config.allowedIps)
        (guarded (blacklistCheck .status config.blacklistIps) next) request windows =
      (.status 403, windows) := by
  have configured : config.blacklistIps ≠ [] := fun empty =>
    not_lists (by rw [empty]; rfl) ip blacklisted.listed
  have blocked := blocks_iff.mpr blacklisted.listed
  have refused : guarded (blacklistCheck .status config.blacklistIps) next request windows =
      (.status 403, windows) := by
    rw [blacklistCheck, if_neg configured]
    apply guarded_of_refused
    rw [checkBlacklist, peerCheck_of_peer blacklisted.peer, if_pos blocked]
    rfl
  by_cases admits : Admits (allowlistCheck PushReply.status config.allowedIps) request windows
  · rw [guarded_of_admits admits, passed_allowlistCheck blacklisted.peer, refused]
  · rw [admits_allowlistCheck blacklisted.peer, ← allows_iff] at admits
    have absent : config.allowedIps ≠ [] := by
      intro empty
      rw [empty] at admits
      exact admits rfl
    rw [allowlistCheck, if_neg absent]
    apply guarded_of_refused
    rw [checkIp, peerCheck_of_peer blacklisted.peer, if_neg admits]
    rfl

/-- A blacklisted address gets the answer of the rate limiter, and is counted by it. -/
theorem handle_blacklisted (limited : 0 < config.rateLimit)
    (blacklisted : FromBlacklisted config request ip) :
    (buildPushRouter world config).handle request windows =
      (blacklistedReply (checkLimit config.rateLimit request.arrival ip windows).1,
        (checkLimit config.rateLimit request.arrival ip windows).2) := by
  obtain ⟨captured, captures⟩ := Option.isSome_iff_exists.mp blacklisted.captured
  rw [Router.handle, select_webhook captures, filtered]
  cases verdict : (checkLimit config.rateLimit request.arrival ip windows).1 with
  | true =>
      rw [guarded_of_admits ((admits_rateLimitCheck blacklisted.peer _).mpr verdict),
        passed_rateLimitCheck blacklisted.peer]
      exact refused_by_lists blacklisted
  | false =>
      rw [rateLimitCheck, if_pos limited]
      apply guarded_of_refused
      rw [checkRateLimit, peerCheck_of_peer blacklisted.peer]
      simp only [verdict]
      rfl

/-! ## What is counted -/

/-- A request that is admitted leaves its mark on the windows. -/
theorem lookup_of_admitted {maxPerSec : UInt32} {now : Instant} (limited : 0 < maxPerSec)
    (admitted : (checkLimit maxPerSec now ip windows).1 = true) :
    (checkLimit maxPerSec now ip windows).2.lookup ip ≠ windows.lookup ip := by
  cases found : windows.lookup ip with
  | none =>
      rw [(checkLimit_first limited found).2]
      exact Option.some_ne_none _
  | some window =>
      obtain ⟨opened, count⟩ := window
      by_cases kept : elapsedMillis now opened ≤ 2000
      · have counted := checkLimit_kept limited found kept
        rw [admitted] at counted
        split at counted
        · next late =>
            rw [(Prod.mk.inj counted).2]
            intro same
            have opening := (Prod.mk.inj (Option.some.inj same)).1
            rw [← opening, elapsedMillis_self] at late
            omega
        · split at counted
          · exact absurd (Prod.mk.inj counted).1 Bool.noConfusion
          · rw [(Prod.mk.inj counted).2]
            intro same
            have next : count + 1 = count := (Prod.mk.inj (Option.some.inj same)).2
            exact absurd (UInt32.add_eq_left.mp next) (by decide)
      · have dropped : ((windows.lookup ip).filter fun window =>
            elapsedMillis now window.1 ≤ 2000) = none := by
          rw [found, Option.filter_some, if_neg (by simpa using kept)]
        rw [(checkLimit_opens limited dropped).2]
        intro same
        have opening := (Prod.mk.inj (Option.some.inj same)).1
        rw [← opening, elapsedMillis_self] at kept
        omega

/-- With a rate limit, the blacklist decides no request first: a blacklisted address is counted
until the limit refuses it, with 429. -/
theorem never_blacklistFirst (world : VhostWorld) (config : PushConfig)
    (limited : 0 < config.rateLimit) (history : List Incoming) (request : Incoming) (ip : IpAddr)
    (blacklisted : FromBlacklisted config request ip) :
    ¬ BlacklistFirst world config history request := by
  intro first
  rw [BlacklistFirst, handle_blacklisted limited blacklisted] at first
  obtain ⟨reply, unchanged⟩ := Prod.mk.inj first
  cases verdict : (checkLimit config.rateLimit request.arrival ip
      ((buildPushRouter world config).stateAfter ∅ history)).1 with
  | true => exact lookup_of_admitted limited verdict (by rw [unchanged])
  | false =>
      rw [verdict] at reply
      exact absurd reply (by decide)

/-- A knock from the address that the shop has on its blacklist. -/
theorem fromBlacklisted_knock (arrival : Instant) :
    FromBlacklisted shopConfig (knock arrival (.v4 0xCB007109)) (.v4 0xCB007109) where
  captured := by rw [capture_knock]; rfl
  peer := rfl
  listed := by decide

theorem never_blacklistFirst_knock :
    ¬ BlacklistFirst ⟨fun _ => false, fun _ => false⟩ shopConfig [] (knock 0 (.v4 0xCB007109)) :=
  never_blacklistFirst _ shopConfig (by decide) [] _ _ (fromBlacklisted_knock 0)

/-- The thirty-first request of a blacklisted address within a second is answered 429. -/
theorem blacklisted_limited :
    FromBlacklisted shopConfig (knock 0 (.v4 0xCB007109)) (.v4 0xCB007109) ∧
      ((buildPushRouter ⟨fun _ => false, fun _ => false⟩ shopConfig).handle
        (knock 0 (.v4 0xCB007109))
        ((buildPushRouter ⟨fun _ => false, fun _ => false⟩ shopConfig).stateAfter ∅
          (List.replicate 30 (knock 0 (.v4 0xCB007109))))).1 = .status 429 ∧
      ¬ BlacklistFirst ⟨fun _ => false, fun _ => false⟩ shopConfig
        (List.replicate 30 (knock 0 (.v4 0xCB007109))) (knock 0 (.v4 0xCB007109)) := by
  have limited : 0 < shopConfig.rateLimit := by decide
  have refused := @exhausted ⟨fun _ => false, fun _ => false⟩ shopConfig limited 0 (.v4 0xCB007109)
  have answered : ((buildPushRouter ⟨fun _ => false, fun _ => false⟩ shopConfig).handle
      (knock 0 (.v4 0xCB007109))
      ((buildPushRouter ⟨fun _ => false, fun _ => false⟩ shopConfig).stateAfter ∅
        (List.replicate 30 (knock 0 (.v4 0xCB007109))))).1 = .status 429 := by
    rw [handle_blacklisted limited (fromBlacklisted_knock 0)]
    exact congrArg blacklistedReply refused
  refine ⟨fromBlacklisted_knock 0, answered, fun first => ?_⟩
  rw [BlacklistFirst] at first
  rw [first] at answered
  exact absurd answered (by decide)

end AimailBridge
