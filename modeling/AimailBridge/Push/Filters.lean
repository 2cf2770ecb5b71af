import AimailBridge.Foundation.HashMap
import AimailBridge.Foundation.Routing
import AimailBridge.Security.Cidr

/-!
# Filters on source addresses

The push server's allowlist, blacklist and rate limit, with the middlewares that apply them.
-/

namespace AimailBridge

open Foundation Text

/-- IP/CIDR allowlist. -/
structure IpAllowlist where
  /-- The valid entries. -/
  entries : List Cidr

/-- IP/CIDR blacklist. -/
structure IpBlacklist where
  /-- The valid entries. -/
  entries : List Cidr

namespace IpAllowlist

/-- Parse an allowlist from config strings. -/
def fromConfig (raw : List Text) : IpAllowlist :=
  ⟨parseIpList raw⟩

/-- Whether a request from the address may pass: an empty list lets all pass. -/
def allows (allowlist : IpAllowlist) (ip : IpAddr) : Bool :=
  if allowlist.entries = [] then true
  else allowlist.entries.any fun entry => ipMatches ip entry.network entry.prefixLen

end IpAllowlist

namespace IpBlacklist

/-- Parse a blacklist from config strings. -/
def fromConfig (raw : List Text) : IpBlacklist :=
  ⟨parseIpList raw⟩

/-- Whether a request from the address is refused. -/
def blocks (blacklist : IpBlacklist) (ip : IpAddr) : Bool :=
  if blacklist.entries = [] then false
  else blacklist.entries.any fun entry => ipMatches ip entry.network entry.prefixLen

end IpBlacklist

/-- The windows of the rate limiter: when each address' window began, and how many requests it has
admitted in it. -/
abbrev RateWindows := HashMap IpAddr (Instant × UInt32)

/-- `now.saturating_duration_since(start).as_millis()`. -/
def elapsedMillis (now start : Instant) : Nat :=
  (now - start) / 1000000

/-- `IpRateLimiter::check`: whether the request is under the limit, and the windows it leaves. -/
def checkLimit (maxPerSec : UInt32) (now : Instant) (ip : IpAddr) (windows : RateWindows) :
    Bool × RateWindows :=
  if maxPerSec = 0 then (true, windows)
  else
    let windows := windows.retain fun _ (start, _) => elapsedMillis now start ≤ 2000
    let (start, count) := (windows.lookup ip).getD (now, 0)
    if 1000 < elapsedMillis now start then (true, windows.insert ip (now, 1))
    else if maxPerSec ≤ count then (false, windows.insert ip (start, count))
    else (true, windows.insert ip (start, count + 1))

/-! ## Middlewares -/

section Middlewares

variable {ο : Type} (answer : UInt16 → ο)

/-- A middleware that extracts the peer's address and then refuses with a status or goes on. -/
def peerCheck (verdict : IpAddr → Instant → RateWindows → Option UInt16 × RateWindows) :
    Check RateWindows ο := fun request windows =>
  match request.peer with
  | none => (some (answer 500), windows)
  | some ip =>
      let (refusal, windows) := verdict ip request.arrival windows
      (refusal.map answer, windows)

/-- Reject requests from addresses outside the allowlist (403). -/
def checkIp (allowlist : IpAllowlist) : Check RateWindows ο :=
  peerCheck answer fun ip _ windows => (if allowlist.allows ip then none else some 403, windows)

/-- Reject blacklisted addresses (403). -/
def checkBlacklist (blacklist : IpBlacklist) : Check RateWindows ο :=
  peerCheck answer fun ip _ windows => (if blacklist.blocks ip then some 403 else none, windows)

/-- Limit the rate of each source address (429). -/
def checkRateLimit (maxPerSec : UInt32) : Check RateWindows ο :=
  peerCheck answer fun ip now windows =>
    let (admitted, windows) := checkLimit maxPerSec now ip windows
    (if admitted then none else some 429, windows)

/-- The allowlist of a configuration, where there is one. -/
def allowlistCheck (allowedIps : List Text) : Option (Check RateWindows ο) :=
  if allowedIps = [] then none else some (checkIp answer (.fromConfig allowedIps))

/-- The blacklist of a configuration, where there is one. -/
def blacklistCheck (blacklistIps : List Text) : Option (Check RateWindows ο) :=
  if blacklistIps = [] then none else some (checkBlacklist answer (.fromConfig blacklistIps))

/-- The rate limit of a configuration, where there is one. -/
def rateLimitCheck (rateLimit : UInt32) : Option (Check RateWindows ο) :=
  if 0 < rateLimit then some (checkRateLimit answer rateLimit) else none

end Middlewares

/-! ## What the filters let pass -/

theorem allows_iff {raw : List Text} {ip : IpAddr} :
    (IpAllowlist.fromConfig raw).allows ip = true ↔ parseIpList raw = [] ∨ Lists raw ip := by
  rw [IpAllowlist.allows, IpAllowlist.fromConfig, lists_iff]
  by_cases empty : parseIpList raw = []
  · simp [empty]
  · simp [empty, Cidr.contains]

theorem blocks_iff {raw : List Text} {ip : IpAddr} :
    (IpBlacklist.fromConfig raw).blocks ip = true ↔ Lists raw ip := by
  rw [IpBlacklist.blocks, IpBlacklist.fromConfig, lists_iff]
  by_cases empty : parseIpList raw = []
  · simp [empty]
  · simp [empty, Cidr.contains]

/-! ## Counting -/

section Counting

variable {maxPerSec : UInt32} {now : Instant} {ip other : IpAddr} {windows : RateWindows}

theorem elapsedMillis_self (now : Instant) : elapsedMillis now now = 0 := by
  simp [elapsedMillis]

/-- The sweep drops the windows that are long over. -/
theorem lookup_sweep (windows : RateWindows) (now : Instant) (ip : IpAddr) :
    (windows.retain fun _ (start, _) => elapsedMillis now start ≤ 2000).lookup ip =
      (windows.lookup ip).filter fun window => elapsedMillis now window.1 ≤ 2000 :=
  HashMap.lookup_retain _ _ _

/-- A call leaves the windows of other addresses, unless they are long over. -/
theorem checkLimit_other (limited : 0 < maxPerSec) (different : other ≠ ip) :
    (checkLimit maxPerSec now ip windows).2.lookup other =
      (windows.lookup other).filter fun window => elapsedMillis now window.1 ≤ 2000 := by
  rw [← lookup_sweep windows now other]
  simp only [checkLimit, if_neg (UInt32.ne_of_lt limited).symm]
  split
  · exact AList.lookup_insert_ne different
  · split
    · exact AList.lookup_insert_ne different
    · exact AList.lookup_insert_ne different

/-- Without a window, or with one that is long over, a call opens one. -/
theorem checkLimit_opens (limited : 0 < maxPerSec)
    (dropped : ((windows.lookup ip).filter fun window => elapsedMillis now window.1 ≤ 2000) =
      none) :
    (checkLimit maxPerSec now ip windows).1 = true ∧
      (checkLimit maxPerSec now ip windows).2.lookup ip = some (now, 1) := by
  have present : maxPerSec ≠ 0 := (UInt32.ne_of_lt limited).symm
  have missing := (lookup_sweep windows now ip).trans dropped
  simp [checkLimit, present, missing, elapsedMillis_self]

/-- A window that is kept is reset, found full or counted in. -/
theorem checkLimit_kept (limited : 0 < maxPerSec) {opened : Instant} {count : UInt32}
    (found : windows.lookup ip = some (opened, count)) (kept : elapsedMillis now opened ≤ 2000) :
    ((checkLimit maxPerSec now ip windows).1,
        (checkLimit maxPerSec now ip windows).2.lookup ip) =
      if 1000 < elapsedMillis now opened then (true, some (now, 1))
      else if maxPerSec ≤ count then (false, some (opened, count))
      else (true, some (opened, count + 1)) := by
  simp only [checkLimit, if_neg (UInt32.ne_of_lt limited).symm, lookup_sweep, found,
    Option.filter_some, kept, decide_true, if_true, Option.getD_some]
  split
  · simp
  · split
    · simp
    · simp

/-- The first request of an address is admitted and counted. -/
theorem checkLimit_first (limited : 0 < maxPerSec) (missing : windows.lookup ip = none) :
    (checkLimit maxPerSec now ip windows).1 = true ∧
      (checkLimit maxPerSec now ip windows).2.lookup ip = some (now, 1) :=
  checkLimit_opens limited (by rw [missing, Option.filter_none])

/-- An address that has sent nothing is admitted. -/
theorem checkLimit_empty (maxPerSec : UInt32) (now : Instant) (ip : IpAddr) :
    (checkLimit maxPerSec now ip ∅).1 = true := by
  by_cases limited : 0 < maxPerSec
  · exact (checkLimit_first limited (AList.lookup_empty ip)).1
  · have unlimited : maxPerSec = 0 := by simpa using limited
    simp [checkLimit, unlimited]

/-- At the moment its window begins, an address is admitted as long as its count is below the
limit. -/
theorem checkLimit_count {count : UInt32} (limited : 0 < maxPerSec)
    (found : windows.lookup ip = some (now, count)) :
    ((checkLimit maxPerSec now ip windows).1 = true ↔ count < maxPerSec) ∧
      (count < maxPerSec →
        (checkLimit maxPerSec now ip windows).2.lookup ip = some (now, count + 1)) := by
  have elapsed := elapsedMillis_self now
  have result := checkLimit_kept limited found (elapsed ▸ Nat.zero_le 2000)
  rw [elapsed, if_neg (Nat.not_lt_zero 1000)] at result
  by_cases full : maxPerSec ≤ count
  · rw [if_pos full] at result
    obtain ⟨refused, _⟩ := Prod.mk.inj result
    have not_below : ¬ count < maxPerSec := UInt32.not_lt.mpr full
    exact ⟨by simp [refused, not_below], fun below => absurd below not_below⟩
  · rw [if_neg full] at result
    obtain ⟨admitted, counted⟩ := Prod.mk.inj result
    exact ⟨iff_of_true admitted (UInt32.not_le.mp full), fun _ => counted⟩

end Counting

/-! ## The middlewares -/

variable {ο : Type} {answer : UInt16 → ο} {request : Incoming} {windows : RateWindows} {ip : IpAddr}
  {verdict : IpAddr → Instant → RateWindows → Option UInt16 × RateWindows}

theorem peerCheck_of_peer (peer : request.peer = some ip) :
    peerCheck answer verdict request windows =
      ((verdict ip request.arrival windows).1.map answer,
        (verdict ip request.arrival windows).2) := by
  rw [peerCheck, peer]

theorem peerCheck_refusal {refusal : ο}
    (refused : (peerCheck answer verdict request windows).1 = some refusal) :
    ∃ code, refusal = answer code := by
  rw [peerCheck] at refused
  split at refused
  · exact ⟨500, (Option.some.inj refused).symm⟩
  · obtain ⟨code, _, rfl⟩ := Option.map_eq_some_iff.mp refused
    exact ⟨code, rfl⟩

theorem refuses_allowlistCheck (allowedIps : List Text) :
    Refuses answer (allowlistCheck answer allowedIps) := by
  intro present found request windows refusal refused
  obtain ⟨_, ⟨⟩⟩ := Option.ite_none_left_eq_some.mp found
  exact peerCheck_refusal refused

theorem refuses_blacklistCheck (blacklistIps : List Text) :
    Refuses answer (blacklistCheck answer blacklistIps) := by
  intro present found request windows refusal refused
  obtain ⟨_, ⟨⟩⟩ := Option.ite_none_left_eq_some.mp found
  exact peerCheck_refusal refused

theorem refuses_rateLimitCheck (rateLimit : UInt32) :
    Refuses answer (rateLimitCheck answer rateLimit) := by
  intro present found request windows refusal refused
  obtain ⟨_, ⟨⟩⟩ := Option.ite_none_right_eq_some.mp found
  exact peerCheck_refusal refused

theorem admits_allowlistCheck (peer : request.peer = some ip) (allowedIps : List Text) :
    Admits (allowlistCheck answer allowedIps) request windows ↔
      parseIpList allowedIps = [] ∨ Lists allowedIps ip := by
  rw [← allows_iff, Admits, allowlistCheck]
  by_cases absent : allowedIps = []
  · simp [absent, IpAllowlist.allows, IpAllowlist.fromConfig, parseIpList]
  · simp [absent, checkIp, peerCheck_of_peer peer]

theorem admits_blacklistCheck (peer : request.peer = some ip) (blacklistIps : List Text) :
    Admits (blacklistCheck answer blacklistIps) request windows ↔ ¬ Lists blacklistIps ip := by
  rw [← blocks_iff, Admits, blacklistCheck]
  by_cases absent : blacklistIps = []
  · simp [absent, IpBlacklist.blocks, IpBlacklist.fromConfig, parseIpList]
  · simp [absent, checkBlacklist, peerCheck_of_peer peer]

theorem admits_rateLimitCheck (peer : request.peer = some ip) (rateLimit : UInt32) :
    Admits (rateLimitCheck answer rateLimit) request windows ↔
      (checkLimit rateLimit request.arrival ip windows).1 = true := by
  rw [Admits, rateLimitCheck]
  by_cases limited : 0 < rateLimit
  · simp [limited, checkRateLimit, peerCheck_of_peer peer]
  · have unlimited : rateLimit = 0 := by simpa using limited
    simp [unlimited, checkLimit]

theorem passed_allowlistCheck (peer : request.peer = some ip) (allowedIps : List Text) :
    passed (allowlistCheck answer allowedIps) request windows = windows := by
  rw [allowlistCheck]
  split
  · rfl
  · rw [passed, checkIp, peerCheck_of_peer peer]

theorem passed_blacklistCheck (peer : request.peer = some ip) (blacklistIps : List Text) :
    passed (blacklistCheck answer blacklistIps) request windows = windows := by
  rw [blacklistCheck]
  split
  · rfl
  · rw [passed, checkBlacklist, peerCheck_of_peer peer]

theorem passed_rateLimitCheck (peer : request.peer = some ip) (rateLimit : UInt32) :
    passed (rateLimitCheck answer rateLimit) request windows =
      (checkLimit rateLimit request.arrival ip windows).2 := by
  rw [rateLimitCheck]
  split
  · rw [passed, checkRateLimit, peerCheck_of_peer peer]
  · next unlimited =>
      have zero : rateLimit = 0 := by simpa using unlimited
      rw [passed, zero, checkLimit, if_pos rfl]

end AimailBridge
