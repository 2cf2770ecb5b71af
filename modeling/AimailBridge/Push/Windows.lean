import AimailBridge.Push.RateLimit

/-!
# What the limiter remembers

Each call sweeps the windows that are long over, so that the map of windows does not grow with the
addresses that have ever called.  It holds no more windows than there were calls in the last two
seconds, whatever the order in which the calls have read the clock.
-/

namespace AimailBridge

open Foundation

/-- For how long a window is kept: until more than 2000 whole milliseconds have gone by. -/
def windowMemory : Nat := 2001000000

/-- The call is recent enough for its window to be kept. -/
def LimitedCall.recent (now : Instant) (call : LimitedCall) : Bool :=
  now < call.time + windowMemory

/-- Each window was opened by a call of its address. -/
def Opened (calls : List LimitedCall) (windows : RateWindows) : Prop :=
  windows.All fun ip window => ⟨window.1, ip⟩ ∈ calls

theorem elapsed_kept_iff {now start : Nat} :
    elapsedMillis now start ≤ 2000 ↔ now < start + windowMemory := by
  rw [elapsedMillis, windowMemory]
  omega

section Windows

variable {maxPerSec : UInt32} {calls : List LimitedCall} {limiter : RateLimiter}
  {windows : RateWindows}

/-- The windows that are kept at a call. -/
def keptWindows (now : Instant) (windows : RateWindows) : RateWindows :=
  windows.retain fun _ window => elapsedMillis now window.1 ≤ 2000

/-- A call looks at the windows that are kept, and changes only its own. -/
theorem checkLimit_kept_windows (limited : maxPerSec ≠ 0) (now : Instant) (ip : IpAddr)
    (windows : RateWindows) :
    let window := ((keptWindows now windows).lookup ip).getD (now, 0)
    checkLimit maxPerSec now ip windows =
      if 1000 < elapsedMillis now window.1 then (true, (keptWindows now windows).insert ip (now, 1))
      else if maxPerSec ≤ window.2 then (false, (keptWindows now windows).insert ip window)
      else (true, (keptWindows now windows).insert ip (window.1, window.2 + 1)) :=
  if_neg limited

/-- After a call each window is opened by it, or was there before and is kept. -/
theorem checkLimit_windows (limited : maxPerSec ≠ 0) (now : Instant) (ip : IpAddr)
    (windows : RateWindows) :
    (checkLimit maxPerSec now ip windows).2.All fun other window =>
      (other = ip ∧ window.1 = now) ∨
        ((windows.lookup other).map Prod.fst = some window.1 ∧ now < window.1 + windowMemory) := by
  have kept : (keptWindows now windows).All fun other window =>
      (other = ip ∧ window.1 = now) ∨
        ((windows.lookup other).map Prod.fst = some window.1 ∧
          now < window.1 + windowMemory) := by
    intro other window found
    rw [keptWindows, HashMap.lookup_retain, Option.filter_eq_some_iff] at found
    refine Or.inr ⟨by rw [found.1]; rfl, elapsed_kept_iff.mp ?_⟩
    simpa using found.2
  have own : (ip = ip ∧ (((keptWindows now windows).lookup ip).getD (now, 0)).1 = now) ∨
      ((windows.lookup ip).map Prod.fst =
          some (((keptWindows now windows).lookup ip).getD (now, 0)).1 ∧
        now < (((keptWindows now windows).lookup ip).getD (now, 0)).1 + windowMemory) := by
    cases found : (keptWindows now windows).lookup ip with
    | none => exact Or.inl ⟨rfl, rfl⟩
    | some window => exact kept ip window found
  rw [checkLimit_kept_windows limited]
  split
  · exact kept.insert (Or.inl ⟨rfl, rfl⟩)
  · split
    · exact kept.insert own
    · exact kept.insert own

/-- Calls keep a window only for a while after the call that has opened it. -/
theorem opened_check (limited : maxPerSec ≠ 0) (opened : Opened calls limiter.windows)
    (call : LimitedCall) :
    Opened ((call :: calls).filter (LimitedCall.recent call.time))
      (limiter.check maxPerSec call).windows := by
  refine (checkLimit_windows limited call.time call.ip limiter.windows).imp
    fun ip window origin => ?_
  rw [List.mem_filter, LimitedCall.recent, decide_eq_true_eq]
  rcases origin with ⟨rfl, same⟩ | ⟨before, recent⟩
  · rw [same]
    exact ⟨List.mem_cons_self, Nat.lt_add_of_pos_right (by decide)⟩
  · obtain ⟨earlier, found, same⟩ := Option.map_eq_some_iff.mp before
    rw [← same] at recent ⊢
    exact ⟨List.mem_cons_of_mem _ (opened ip earlier found), recent⟩

theorem Opened.mono {more : List LimitedCall} (opened : Opened calls windows)
    (subset : calls ⊆ more) : Opened more windows :=
  opened.imp fun _ _ member => subset member

theorem opened_run (limited : maxPerSec ≠ 0) (calls : List LimitedCall) :
    Opened calls (RateLimiter.run maxPerSec calls).windows := by
  induction calls using List.reverseRecOn with
  | nil => exact HashMap.all_empty _
  | append_singleton calls last induction =>
      rw [RateLimiter.run, List.foldl_append]
      refine (opened_check limited induction last).mono fun call member => ?_
      rcases List.mem_cons.mp (List.mem_of_mem_filter member) with rfl | earlier
      · exact List.mem_append_right _ List.mem_cons_self
      · exact List.mem_append_left _ earlier

/-- Without a limit no window is opened. -/
theorem windows_unlimited (calls : List LimitedCall) : (RateLimiter.run 0 calls).windows = ∅ := by
  induction calls using List.reverseRecOn with
  | nil => rfl
  | append_singleton calls last induction =>
      rw [RateLimiter.run, List.foldl_append]
      exact induction

/-- There are at most as many windows as there are calls that can have opened them. -/
theorem length_keys_of_opened (opened : Opened calls windows) :
    windows.keys.length ≤ calls.length := by
  have subset : windows.keys ⊆ calls.map LimitedCall.ip := by
    intro ip member
    obtain ⟨window, found⟩ :=
      Option.isSome_iff_exists.mp (HashMap.mem_keys_iff_lookup.mp member)
    exact List.mem_map.mpr ⟨_, opened ip window found, rfl⟩
  have bound := (windows.keys_nodup.subperm subset).length_le
  rwa [List.length_map] at bound

end Windows

/-- After any calls the limiter holds no more windows than there were calls within two seconds
before the last one, and each of them was opened by such a call of its own address. -/
theorem windows_recent (maxPerSec : UInt32) (calls : List LimitedCall) (last : LimitedCall) :
    let windows := (RateLimiter.run maxPerSec (calls ++ [last])).windows
    Opened ((calls ++ [last]).filter (LimitedCall.recent last.time)) windows ∧
      windows.keys.length ≤ (calls ++ [last]).countP (LimitedCall.recent last.time) := by
  intro windows
  have opened : Opened ((calls ++ [last]).filter (LimitedCall.recent last.time)) windows := by
    by_cases limited : maxPerSec = 0
    · obtain rfl := limited
      rw [show windows = ∅ from windows_unlimited _]
      exact HashMap.all_empty _
    · have after := opened_check limited (opened_run limited calls) last
      rw [show windows = ((RateLimiter.run maxPerSec calls).check maxPerSec last).windows from
        congrArg RateLimiter.windows List.foldl_append]
      refine after.mono fun call member => ?_
      obtain ⟨listed, recent⟩ := List.mem_filter.mp member
      refine List.mem_filter.mpr ⟨?_, recent⟩
      rw [List.mem_append, List.mem_singleton]
      exact (List.mem_cons.mp listed).symm
  refine ⟨opened, ?_⟩
  rw [List.countP_eq_length_filter]
  exact length_keys_of_opened opened

end AimailBridge
