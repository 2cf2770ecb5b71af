import AimailBridge.Foundation.FixedWindow
import AimailBridge.Push.Filters

/-!
# The rate limit over whole runs

The limiter keeps a window for each address in one map, and each call sweeps the map of windows that
are long over.  To one address it is a fixed-window counter of its own: the sweep drops only what
the next call would replace anyway.  What holds of the counter therefore holds of the limiter, among
any calls from other addresses.
-/

namespace AimailBridge

open Foundation

/-- One call of `check`. -/
structure LimitedCall where
  /-- The clock reading, in the order in which the lock is taken. -/
  time : Instant
  /-- The address of the peer. -/
  ip : IpAddr

/-- The limiter, with the calls so far. -/
structure RateLimiter where
  /-- The windows. -/
  windows : RateWindows
  /-- The calls with their answers, newest first. -/
  history : List (LimitedCall × Bool)

namespace RateLimiter

/-- The limiter before the first call. -/
def start : RateLimiter :=
  ⟨∅, []⟩

/-- The limiter after a call. -/
def check (maxPerSec : UInt32) (limiter : RateLimiter) (call : LimitedCall) : RateLimiter :=
  let (admitted, windows) := checkLimit maxPerSec call.time call.ip limiter.windows
  ⟨windows, (call, admitted) :: limiter.history⟩

end RateLimiter

/-- The answers to one address, newest first. -/
def answersFor (ip : IpAddr) (history : List (LimitedCall × Bool)) : List (Instant × Bool) :=
  history.filterMap fun (call, admitted) =>
    if call.ip = ip then some (call.time, admitted) else none

/-- When one address calls. -/
def arrivals (ip : IpAddr) (calls : List LimitedCall) : List Instant :=
  calls.filterMap fun call => if call.ip = ip then some call.time else none

/-- For how long a window is open: its last moment is less than 1001 milliseconds after its
first. -/
def windowLength : Nat := 1001000000

/-- One second, in nanoseconds. -/
def oneSecond : Nat := 1000000000

theorem elapsed_over_iff {now start : Nat} :
    1000 < elapsedMillis now start ↔ start + windowLength ≤ now := by
  rw [elapsedMillis, windowLength]
  omega

/-! ## One address -/

/-- The limiter treats an address as the counter does: they have given it the same answers and have
the same window for it, unless the limiter has swept away one that is over. -/
structure Mirrors (limiter : RateLimiter) (ip : IpAddr) (counter : WindowCounter)
    (now : Instant) : Prop where
  /-- The answers. -/
  answers : answersFor ip limiter.history = counter.history
  /-- The window. -/
  window : (limiter.windows.lookup ip).map (fun window => (window.1, window.2.toNat)) =
      counter.window ∨
    (limiter.windows.lookup ip = none ∧
      ∃ window, counter.window = some window ∧ window.1 + windowLength ≤ now)

section Mirroring

variable {maxPerSec : UInt32} {limiter : RateLimiter} {ip : IpAddr} {counter : WindowCounter}
  {now : Instant} {call : LimitedCall}

theorem mirrors_start (ip : IpAddr) (now : Instant) :
    Mirrors RateLimiter.start ip WindowCounter.start now :=
  ⟨rfl, Or.inl (by rw [RateLimiter.start, AList.lookup_empty]; rfl)⟩

/-- A call from another address only lets time pass, and perhaps sweeps the window away. -/
theorem mirrors_check_other (limited : 0 < maxPerSec) (mirrors : Mirrors limiter ip counter now)
    (later : now ≤ call.time) (different : call.ip ≠ ip) :
    Mirrors (limiter.check maxPerSec call) ip counter call.time := by
  have windows_after : (limiter.check maxPerSec call).windows.lookup ip =
      (limiter.windows.lookup ip).filter fun window => elapsedMillis call.time window.1 ≤ 2000 :=
    checkLimit_other limited (Ne.symm different)
  refine ⟨?_, ?_⟩
  · rw [← mirrors.answers, RateLimiter.check]
    simp [answersFor, different]
  · rw [windows_after]
    rcases mirrors.window with same | ⟨missing, window, opened, ended⟩
    · cases found : limiter.windows.lookup ip with
      | none =>
          rw [found] at same
          exact Or.inl same
      | some window =>
          rw [found] at same
          rw [Option.filter_some]
          by_cases kept : elapsedMillis call.time window.1 ≤ 2000
          · rw [if_pos (by simpa using kept)]
            exact Or.inl same
          · rw [if_neg (by simpa using kept)]
            refine Or.inr ⟨rfl, _, same.symm, elapsed_over_iff.mp ?_⟩
            exact Nat.lt_trans (by decide) (Nat.lt_of_not_le kept)
    · rw [missing]
      exact Or.inr ⟨rfl, window, opened, ended.trans later⟩

/-- If the sweep leaves the address no window, the counter opens one too. -/
theorem Mirrors.answer_dropped (mirrors : Mirrors limiter ip counter now) (later : now ≤ call.time)
    (dropped : ((limiter.windows.lookup ip).filter fun window =>
      elapsedMillis call.time window.1 ≤ 2000) = none) (limit : Nat) :
    WindowCounter.answer limit windowLength call.time counter.window = (true, call.time, 1) := by
  rcases mirrors.window with same | ⟨_, window, opened, ended⟩
  · cases found : limiter.windows.lookup ip with
    | none =>
        rw [found] at same
        rw [← same]
        rfl
    | some window =>
        rw [found] at same dropped
        have long_over : ¬ elapsedMillis call.time window.1 ≤ 2000 := by
          simpa using Option.filter_eq_none_iff.mp dropped window rfl
        have ended : window.1 + windowLength ≤ call.time :=
          elapsed_over_iff.mp (Nat.lt_trans (by decide) (Nat.lt_of_not_le long_over))
        rw [← same, Option.map_some, WindowCounter.answer, if_pos ended]
  · rw [opened, WindowCounter.answer, if_pos (ended.trans later)]

/-- A window of the limiter is the counter's. -/
theorem Mirrors.found (mirrors : Mirrors limiter ip counter now) {start : Instant}
    {count : UInt32} (found : limiter.windows.lookup ip = some (start, count)) :
    counter.window = some (start, count.toNat) := by
  rcases mirrors.window with same | ⟨missing, _⟩
  · rw [← same, found, Option.map_some]
  · rw [missing] at found
    simp at found

/-- A call from the address itself is answered as by the counter. -/
theorem checkLimit_answer (limited : 0 < maxPerSec) (mirrors : Mirrors limiter ip counter now)
    (later : now ≤ call.time) (own : call.ip = ip) :
    (checkLimit maxPerSec call.time call.ip limiter.windows).1 =
        (WindowCounter.answer maxPerSec.toNat windowLength call.time counter.window).1 ∧
      ((checkLimit maxPerSec call.time call.ip limiter.windows).2.lookup ip).map
          (fun window => (window.1, window.2.toNat)) =
        some (WindowCounter.answer maxPerSec.toNat windowLength call.time counter.window).2 := by
  subst own
  cases swept : (limiter.windows.lookup call.ip).filter fun window =>
      elapsedMillis call.time window.1 ≤ 2000 with
  | none =>
      obtain ⟨admitted, opens⟩ := checkLimit_opens limited swept
      rw [admitted, opens, mirrors.answer_dropped later swept]
      exact ⟨rfl, rfl⟩
  | some window =>
      obtain ⟨start, count⟩ := window
      obtain ⟨found, recent⟩ := Option.filter_eq_some_iff.mp swept
      have result := checkLimit_kept limited found (by simpa using recent)
      rw [mirrors.found found, WindowCounter.answer]
      by_cases ended : start + windowLength ≤ call.time
      · rw [if_pos (elapsed_over_iff.mpr ended)] at result
        obtain ⟨admitted, window_after⟩ := Prod.mk.inj result
        rw [admitted, window_after, if_pos ended]
        exact ⟨rfl, rfl⟩
      · rw [if_neg fun elapsed => ended (elapsed_over_iff.mp elapsed)] at result
        rw [if_neg ended]
        by_cases full : maxPerSec ≤ count
        · rw [if_pos full] at result
          obtain ⟨admitted, window_after⟩ := Prod.mk.inj result
          rw [admitted, window_after, if_pos (UInt32.le_iff_toNat_le.mp full)]
          exact ⟨rfl, rfl⟩
        · rw [if_neg full] at result
          obtain ⟨admitted, window_after⟩ := Prod.mk.inj result
          have room : ¬ maxPerSec.toNat ≤ count.toNat :=
            fun within => full (UInt32.le_iff_toNat_le.mpr within)
          rw [admitted, window_after, if_neg room, Option.map_some,
            HashMap.toNat_succ_of_lt (UInt32.not_le.mp full)]
          exact ⟨rfl, rfl⟩

/-- A call from the address itself keeps the two alike. -/
theorem mirrors_check_own (limited : 0 < maxPerSec) (mirrors : Mirrors limiter ip counter now)
    (later : now ≤ call.time) (own : call.ip = ip) :
    Mirrors (limiter.check maxPerSec call) ip
      (counter.call maxPerSec.toNat windowLength call.time) call.time := by
  obtain ⟨admitted, window⟩ := checkLimit_answer limited mirrors later own
  have history : answersFor ip (limiter.check maxPerSec call).history =
      (call.time, (checkLimit maxPerSec call.time call.ip limiter.windows).1) ::
        answersFor ip limiter.history := by
    rw [RateLimiter.check]
    simp [answersFor, own]
  refine ⟨?_, Or.inl ?_⟩
  · rw [history, admitted, mirrors.answers]
    rfl
  · subst own
    exact window

/-- After any calls in the order of time, the limiter has treated the address as a counter that has
seen the address alone. -/
theorem mirrors_run (limited : 0 < maxPerSec) {calls : List LimitedCall}
    (sorted : calls.Pairwise fun call next => call.time ≤ next.time)
    (after : ∀ call ∈ calls, now ≤ call.time) (mirrors : Mirrors limiter ip counter now) :
    answersFor ip (calls.foldl (RateLimiter.check maxPerSec) limiter).history =
      ((arrivals ip calls).foldl (WindowCounter.call maxPerSec.toNat windowLength)
        counter).history := by
  induction calls generalizing limiter counter now with
  | nil => exact mirrors.answers
  | cons call calls induction =>
      obtain ⟨head_first, sorted⟩ := List.pairwise_cons.mp sorted
      have later := after call List.mem_cons_self
      by_cases own : call.ip = ip
      · have mirrors_after := mirrors_check_own limited mirrors later own
        simpa [arrivals, own] using induction sorted head_first mirrors_after
      · have mirrors_after := mirrors_check_other limited mirrors later own
        simpa [arrivals, own] using induction sorted head_first mirrors_after

end Mirroring

/-! ## Refusals -/

/-- Each refused call comes after as many admitted calls of its address as the limit allows, all of
them within 1000 elapsed milliseconds. -/
def RefusalsCaused (maxPerSec : UInt32) : List (LimitedCall × Bool) → Prop
  | [] => True
  | (call, admitted) :: earlier =>
      (admitted = false →
        maxPerSec.toNat ≤ earlier.countP fun (before, admitted) =>
          before.ip = call.ip && admitted && elapsedMillis call.time before.time ≤ 1000) ∧
      RefusalsCaused maxPerSec earlier

/-- The limiter treats every address as some counter does. -/
def MirrorsAll (limiter : RateLimiter) (now : Instant) : Prop :=
  ∀ ip, ∃ counter, Mirrors limiter ip counter now ∧ counter.Invariant windowLength now

section Refusals

variable {maxPerSec : UInt32} {limiter : RateLimiter} {ip : IpAddr} {now : Instant}
  {call : LimitedCall}

theorem mirrorsAll_start (now : Instant) : MirrorsAll RateLimiter.start now :=
  fun ip => ⟨.start, mirrors_start ip now, WindowCounter.invariant_start windowLength now⟩

theorem mirrorsAll_check (limited : 0 < maxPerSec) (mirrors : MirrorsAll limiter now)
    (later : now ≤ call.time) : MirrorsAll (limiter.check maxPerSec call) call.time := by
  intro ip
  obtain ⟨counter, alike, invariant⟩ := mirrors ip
  by_cases own : call.ip = ip
  · exact ⟨_, mirrors_check_own limited alike later own,
      (invariant.mono later).call (UInt32.lt_iff_toNat_lt.mp limited) (by decide)⟩
  · exact ⟨counter, mirrors_check_other limited alike later own, invariant.mono later⟩

/-- The admitted calls of an address, as the history and the counter have them. -/
theorem countP_answersFor (ip : IpAddr) (accept : Instant → Bool)
    (history : List (LimitedCall × Bool)) :
    (((answersFor ip history).filter Prod.snd).map Prod.fst).countP accept =
      history.countP fun (before, admitted) =>
        before.ip = ip && admitted && accept before.time := by
  induction history with
  | nil => rfl
  | cons newest history induction =>
      obtain ⟨before, admitted⟩ := newest
      rw [List.countP_cons, ← induction]
      by_cases own : before.ip = ip <;> cases admitted <;> simp [answersFor, own, List.countP_cons]

theorem refusalsCaused_check (limited : 0 < maxPerSec) (mirrors : MirrorsAll limiter now)
    (later : now ≤ call.time) (caused : RefusalsCaused maxPerSec limiter.history) :
    RefusalsCaused maxPerSec (limiter.check maxPerSec call).history := by
  refine ⟨fun refused => ?_, caused⟩
  obtain ⟨counter, alike, invariant⟩ := mirrors call.ip
  have refused : (checkLimit maxPerSec call.time call.ip limiter.windows).1 = false := refused
  rw [(checkLimit_answer limited alike later rfl).1] at refused
  have reached := (invariant.mono later).refused (UInt32.lt_iff_toNat_lt.mp limited) (by decide)
    refused
  rw [WindowCounter.admitted, ← alike.answers, countP_answersFor] at reached
  refine reached.trans (List.countP_mono_left fun answered _ recent => ?_)
  simp only [Bool.and_eq_true, decide_eq_true_eq] at recent ⊢
  refine ⟨recent.1, Nat.le_of_not_lt fun ended => ?_⟩
  exact Nat.not_le_of_lt recent.2 (elapsed_over_iff.mp ended)

theorem refusalsCaused_run (limited : 0 < maxPerSec) {calls : List LimitedCall}
    (sorted : calls.Pairwise fun call next => call.time ≤ next.time)
    (after : ∀ call ∈ calls, now ≤ call.time) (mirrors : MirrorsAll limiter now)
    (caused : RefusalsCaused maxPerSec limiter.history) :
    RefusalsCaused maxPerSec (calls.foldl (RateLimiter.check maxPerSec) limiter).history := by
  induction calls generalizing limiter now with
  | nil => exact caused
  | cons call calls induction =>
      obtain ⟨head_first, sorted⟩ := List.pairwise_cons.mp sorted
      have later := after call List.mem_cons_self
      exact induction sorted head_first (mirrorsAll_check limited mirrors later)
        (refusalsCaused_check limited mirrors later caused)

end Refusals

/-! ## The limiter -/

/-- The limiter after some calls. -/
def RateLimiter.run (maxPerSec : UInt32) (calls : List LimitedCall) : RateLimiter :=
  calls.foldl (RateLimiter.check maxPerSec) RateLimiter.start

variable {maxPerSec : UInt32} {calls : List LimitedCall}

theorem answersFor_run (limited : 0 < maxPerSec)
    (sorted : calls.Pairwise fun call next => call.time ≤ next.time) (ip : IpAddr) :
    answersFor ip (RateLimiter.run maxPerSec calls).history =
      ((arrivals ip calls).foldl (WindowCounter.call maxPerSec.toNat windowLength)
        .start).history :=
  mirrors_run limited sorted (fun _ _ => Nat.zero_le _) (mirrors_start ip 0)

theorem arrivals_filter (ip : IpAddr) (calls : List LimitedCall) :
    arrivals ip (calls.filter fun call => call.ip = ip) = arrivals ip calls := by
  rw [arrivals, arrivals, List.filterMap_filter]
  refine List.filterMap_congr fun call _ => ?_
  by_cases own : call.ip = ip <;> simp [own]

/-- An address gets the answers that it would get alone, and every refusal has its cause in admitted
calls of the same address. -/
theorem rateLimit_perAddress (limited : 0 < maxPerSec)
    (sorted : calls.Pairwise fun call next => call.time ≤ next.time) (ip : IpAddr) :
    answersFor ip (RateLimiter.run maxPerSec calls).history =
        answersFor ip
          (RateLimiter.run maxPerSec (calls.filter fun call => call.ip = ip)).history ∧
      RefusalsCaused maxPerSec (RateLimiter.run maxPerSec calls).history := by
  refine ⟨?_, ?_⟩
  · rw [answersFor_run limited sorted, answersFor_run limited (sorted.filter _), arrivals_filter]
  · exact refusalsCaused_run limited sorted (fun _ _ => Nat.zero_le _) (mirrorsAll_start 0) trivial

/-- A second address calls between the calls of the first, and sweeps its window away in the end. -/
def twoAddresses : List LimitedCall :=
  [⟨0, .v4 1⟩, ⟨0, .v4 2⟩, ⟨5000000, .v4 1⟩, ⟨3000000000, .v4 2⟩, ⟨3000000000, .v4 1⟩]

theorem first_of_twoAddresses :
    answersFor (.v4 1) (RateLimiter.run 1 twoAddresses).history =
        answersFor (.v4 1)
          (RateLimiter.run 1 (twoAddresses.filter fun call => call.ip = .v4 1)).history ∧
      RefusalsCaused 1 (RateLimiter.run 1 twoAddresses).history :=
  rateLimit_perAddress (by decide) (by simp [twoAddresses]) (.v4 1)

/-- No second has more admitted calls from the address than the limit. -/
def SlidingLimit (maxPerSec : UInt32) (ip : IpAddr) (history : List (LimitedCall × Bool)) : Prop :=
  ∀ first : Instant, (history.countP fun (call, admitted) =>
    call.ip = ip && admitted && (first ≤ call.time && call.time ≤ first + oneSecond)) ≤
      maxPerSec.toNat

theorem pairwise_arrivals (sorted : calls.Pairwise fun call next => call.time ≤ next.time)
    (ip : IpAddr) : (arrivals ip calls).Pairwise (· ≤ ·) := by
  refine sorted.filterMap _ ?_
  intro call next order time first later second
  simp only [Option.ite_none_right_eq_some, Option.some.injEq] at first second
  rw [← first.2, ← second.2]
  exact order

/-- The limit holds over every second exactly when, at each call of the address that fits into its
window, the windows before it leave room for it too. -/
theorem slidingLimit_iff (limited : 0 < maxPerSec)
    (sorted : calls.Pairwise fun call next => call.time ≤ next.time) (ip : IpAddr) :
    SlidingLimit maxPerSec ip (RateLimiter.run maxPerSec calls).history ↔
      Guarded (WindowCounter.call maxPerSec.toNat windowLength)
        (WindowCounter.HasRoom oneSecond maxPerSec.toNat windowLength) .start
        (arrivals ip calls) := by
  have bounded := @WindowCounter.bounded_run_iff oneSecond maxPerSec.toNat windowLength 0 .start
    (UInt32.lt_iff_toNat_lt.mp limited) (by decide) (arrivals ip calls)
    (pairwise_arrivals sorted ip) (fun _ _ => Nat.zero_le _)
    (WindowCounter.invariant_start windowLength 0)
  have nothing : WindowCounter.Bounded oneSecond maxPerSec.toNat WindowCounter.start.admitted :=
    fun _ => Nat.zero_le _
  rw [and_iff_right nothing] at bounded
  rw [← bounded, WindowCounter.Bounded, SlidingLimit]
  refine forall_congr' fun first => ?_
  rw [WindowCounter.admitted, ← answersFor_run limited sorted, countP_answersFor]
  rfl

/-- Two calls in one window and two in the next, more than a second later. -/
def apart : List LimitedCall :=
  [⟨0, .v4 1⟩, ⟨100000000, .v4 1⟩, ⟨1200000000, .v4 1⟩, ⟨1300000000, .v4 1⟩]

theorem apart_slidingLimit : SlidingLimit 2 (.v4 1) (RateLimiter.run 2 apart).history :=
  (slidingLimit_iff (by decide) (by simp [apart]) (.v4 1)).mpr
    ⟨by decide, by decide, by decide, by decide, trivial⟩

/-- A call late in one window, and two early in the next. -/
def acrossBoundary : List LimitedCall :=
  [⟨0, .v4 1⟩, ⟨900000000, .v4 1⟩, ⟨1001000000, .v4 1⟩, ⟨1001000000, .v4 1⟩]

/-- Three calls within 101 milliseconds pass a limit of two a second. -/
theorem boundary_exceeds_limit :
    acrossBoundary.Pairwise (fun call next => call.time ≤ next.time) ∧
      ¬ SlidingLimit 2 (.v4 1) (RateLimiter.run 2 acrossBoundary).history :=
  ⟨by simp [acrossBoundary], fun limit => absurd (limit 900000000) (by decide)⟩

end AimailBridge
