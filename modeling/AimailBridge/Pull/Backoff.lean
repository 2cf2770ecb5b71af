import AimailBridge.Pull.Responses

/-!
# The delays between failing fetches

After each failed fetch the delay doubles, up to a cap.  The product is taken modulo `2 ^ 64` before
it is capped, and the failures are counted modulo `2 ^ 32`.
-/

namespace AimailBridge

open Foundation ProfileRouter Pull

/-- The next cycle fetches, and the fetch fails. -/
structure FetchFails (loop : PullLoop) (turn : CycleTurn) : Prop where
  /-- The loop has not returned. -/
  running : loop.stopped = false
  /-- It goes on. -/
  continues : turn.shutdown = false
  /-- The relay gives no answer. -/
  failed : fetchPending (turn.change loop.router) turn.relay = none

/-- Every cycle of the run is a failed fetch. -/
def AllFail (config : PullSystemConfig) (json : JsonCrate) (regex : RegexCrate) :
    PullLoop → List CycleTurn → Prop
  | _, [] => True
  | loop, turn :: turns =>
      FetchFails loop turn ∧ AllFail config json regex (cycle config json regex loop turn) turns

/-- The delay after a failed fetch. -/
def delayAfter (config : PullSystemConfig) (loop : PullLoop) : UInt64 :=
  backoff config.pollIntervalSec (loop.consecutiveFailures + 1)

/-- The delays after the failed fetches of a run. -/
def delays (config : PullSystemConfig) (json : JsonCrate) (regex : RegexCrate) :
    PullLoop → List CycleTurn → List UInt64
  | _, [] => []
  | loop, turn :: turns =>
      delayAfter config loop :: delays config json regex (cycle config json regex loop turn) turns

/-- The delay that is due after so many failures, in seconds. -/
def dueDelay (pollInterval : UInt64) (failures : Nat) : Nat :=
  min 300 (pollInterval.toNat * 2 ^ min failures 6)

/-- The delays are those that are due, and never decrease. -/
structure BacksOff (pollInterval : UInt64) (delays : List UInt64) : Prop where
  /-- The n-th delay is the one due after n failures. -/
  due : delays.map UInt64.toNat =
    (List.range delays.length).map fun earlier => dueDelay pollInterval (earlier + 1)
  /-- No delay is shorter than one before it. -/
  ordered : delays.Pairwise (· ≤ ·)

/-- Neither the product nor the counter wraps round to a shorter delay in so many failures: every
product that is taken fits 64 bits or wraps to no less than the cap, and the counter fits 32 bits
unless the interval is zero or at least the cap. -/
structure WrapsHarmlessly (pollInterval : UInt64) (failures : Nat) : Prop where
  /-- The products. -/
  product : ∀ n, 1 ≤ n → n ≤ failures → n ≤ 6 →
    pollInterval.toNat * 2 ^ n < 2 ^ 64 ∨ 300 ≤ pollInterval.toNat * 2 ^ n % 2 ^ 64
  /-- The counter. -/
  counter : failures < 2 ^ 32 ∨ pollInterval = 0 ∨ 300 ≤ pollInterval.toNat

variable {config : PullSystemConfig} {json : JsonCrate} {regex : RegexCrate} {loop : PullLoop}
  {turn : CycleTurn} {turns : List CycleTurn} {pollInterval : UInt64}

/-! ## One delay -/

theorem toNat_two_pow {exponent : Nat} (small : exponent ≤ 6) :
    ((2 : UInt64) ^ exponent).toNat = 2 ^ exponent := by
  interval_cases exponent <;> rfl

/-- The delay in numbers: the product wraps, and is then capped. -/
theorem toNat_backoff (pollInterval : UInt64) (failures : UInt32) :
    (backoff pollInterval failures).toNat =
      min (pollInterval.toNat * 2 ^ min failures.toNat 6 % 2 ^ 64) 300 := by
  have small : (min failures 6).toNat = min failures.toNat 6 := by
    change (if failures ≤ 6 then failures else 6).toNat = _
    split
    · next few => exact (Nat.min_eq_left (UInt32.le_iff_toNat_le.mp few)).symm
    · next many =>
        exact (Nat.min_eq_right (Nat.le_of_not_le fun few =>
          many (UInt32.le_iff_toNat_le.mpr few))).symm
  have capped : ∀ product : UInt64, (min product maxBackoff).toNat = min product.toNat 300 := by
    intro product
    change (if product ≤ maxBackoff then product else maxBackoff).toNat = _
    split
    · next short => exact (Nat.min_eq_left (UInt64.le_iff_toNat_le.mp short)).symm
    · next long =>
        exact (Nat.min_eq_right (Nat.le_of_not_le fun short =>
          long (UInt64.le_iff_toNat_le.mpr short))).symm
  rw [backoff, capped, UInt64.toNat_mul, small, toNat_two_pow (Nat.min_le_right _ _)]

/-- A failed fetch counts, and delays the next cycle. -/
theorem cycle_of_fails (fails : FetchFails loop turn) :
    (cycle config json regex loop turn).consecutiveFailures = loop.consecutiveFailures + 1 ∧
      (cycle config json regex loop turn).clock = loop.clock + turn.sweepTime + turn.fetchTime +
        turn.pause + seconds (delayAfter config loop) := by
  rw [cycle, if_neg (by rw [fails.running]; exact Bool.false_ne_true),
    if_neg (by rw [fails.continues]; exact Bool.false_ne_true), fails.failed]
  exact ⟨rfl, rfl⟩

/-- A failed fetch leaves the loop going, with the routes as other tasks have left them. -/
theorem goes_on_of_fails (fails : FetchFails loop turn) :
    ∃ clock seen cycles, cycle config json regex loop turn =
      { loop with
        clock, seen, cycles
        router := turn.change loop.router
        consecutiveFailures := loop.consecutiveFailures + 1 } := by
  rw [cycle, if_neg (by rw [fails.running]; exact Bool.false_ne_true),
    if_neg (by rw [fails.continues]; exact Bool.false_ne_true), fails.failed]
  exact ⟨_, _, _, rfl⟩

/-! ## A run of failures -/

theorem length_delays (loop : PullLoop) (turns : List CycleTurn) :
    (delays config json regex loop turns).length = turns.length := by
  induction turns generalizing loop with
  | nil => rfl
  | cons turn turns induction => rw [delays, List.length_cons, induction, List.length_cons]

/-- The delays of a run count on from the failures before it. -/
theorem delays_eq (fails : AllFail config json regex loop turns) :
    delays config json regex loop turns = (List.range turns.length).map fun earlier =>
      backoff config.pollIntervalSec (loop.consecutiveFailures + UInt32.ofNat (earlier + 1)) := by
  induction turns generalizing loop with
  | nil => rfl
  | cons turn turns induction =>
      have counted := (@cycle_of_fails config json regex _ _ fails.1).1
      have shifted : ∀ earlier : Nat, loop.consecutiveFailures + 1 + UInt32.ofNat (earlier + 1) =
          loop.consecutiveFailures + UInt32.ofNat (earlier + 1 + 1) := by
        intro earlier
        rw [UInt32.ofNat_add (earlier + 1) 1, UInt32.add_assoc, UInt32.add_comm 1]
        rfl
      rw [delays, induction fails.2, List.length_cons, List.range_succ_eq_map, List.map_cons,
        List.map_map, counted]
      refine List.cons_eq_cons.mpr ⟨rfl, List.map_congr_left fun earlier _ => ?_⟩
      rw [Function.comp_apply, shifted]

/-- After so many failures the delay is due. -/
def IsDue (pollInterval : UInt64) (failures : Nat) : Prop :=
  (backoff pollInterval (UInt32.ofNat failures)).toNat = dueDelay pollInterval failures

theorem isDue_iff (pollInterval : UInt64) (failures : Nat) : IsDue pollInterval failures ↔
    min (pollInterval.toNat * 2 ^ min (failures % 2 ^ 32) 6 % 2 ^ 64) 300 =
      min 300 (pollInterval.toNat * 2 ^ min failures 6) := by
  rw [IsDue, toNat_backoff, dueDelay]
  rfl

/-- While the counter has not wrapped, a delay is due when its product does no harm. -/
theorem isDue_iff_of_lt {failures : Nat} (counted : failures < 2 ^ 32) :
    IsDue pollInterval failures ↔ pollInterval.toNat * 2 ^ min failures 6 < 2 ^ 64 ∨
      300 ≤ pollInterval.toNat * 2 ^ min failures 6 % 2 ^ 64 := by
  rw [isDue_iff, Nat.mod_eq_of_lt counted]
  generalize pollInterval.toNat * 2 ^ min failures 6 = product
  omega

/-- Once the counter has wrapped to zero, the delay is the capped interval. -/
theorem isDue_wrapped :
    IsDue pollInterval (2 ^ 32) ↔ pollInterval = 0 ∨ 300 ≤ pollInterval.toNat := by
  have fits := pollInterval.toNat_lt
  have zero : pollInterval = 0 ↔ pollInterval.toNat = 0 := UInt64.toNat_inj.symm
  rw [isDue_iff, zero, Nat.mod_self]
  norm_num
  omega

/-- All delays of a run are due exactly when it wraps harmlessly. -/
theorem isDue_all_iff {failures : Nat} :
    (∀ n, 1 ≤ n → n ≤ failures → IsDue pollInterval n) ↔ WrapsHarmlessly pollInterval failures := by
  constructor
  · intro due
    refine ⟨fun n positive within few => ?_, ?_⟩
    · have product := (isDue_iff_of_lt (by omega)).mp (due n positive within)
      rwa [Nat.min_eq_left few] at product
    · by_cases wraps : failures < 2 ^ 32
      · exact Or.inl wraps
      · exact Or.inr (isDue_wrapped.mp (due (2 ^ 32) (by omega) (by omega)))
  · intro harmless n positive within
    by_cases counted : n < 2 ^ 32
    · refine (isDue_iff_of_lt counted).mpr ?_
      exact harmless.product (min n 6) (by omega) (by omega) (by omega)
    · rw [isDue_iff, Nat.min_eq_right (show 6 ≤ n by omega)]
      rcases harmless.counter with short | zero | long
      · omega
      · simp [zero]
      · have large : 300 ≤ pollInterval.toNat * 2 ^ 6 := by omega
        rw [Nat.min_eq_left large]
        refine Nat.min_eq_right ?_
        rcases Nat.eq_zero_or_pos (min (n % 2 ^ 32) 6) with none | some_left
        · rw [none, pow_zero, Nat.mul_one, Nat.mod_eq_of_lt pollInterval.toNat_lt]
          exact long
        · have product := harmless.product (min (n % 2 ^ 32) 6) some_left (by omega)
            (Nat.min_le_right _ _)
          rcases product with fits | wrapped
          · rw [Nat.mod_eq_of_lt fits]
            exact long.trans (Nat.le_mul_of_pos_right _ (Nat.two_pow_pos _))
          · exact wrapped

theorem dueDelay_mono {earlier later : Nat} (le : earlier ≤ later) :
    dueDelay pollInterval earlier ≤ dueDelay pollInterval later := by
  have exponents : min earlier 6 ≤ min later 6 := by omega
  have products := Nat.mul_le_mul_left pollInterval.toNat
    (Nat.pow_le_pow_right Nat.zero_lt_two exponents)
  rw [dueDelay, dueDelay]
  omega

/-- In every run of failures from a counter at zero, the delays are due and never decrease exactly
when neither the products nor the counter wrap to a shorter delay. -/
theorem backsOff_iff (config : PullSystemConfig) (json : JsonCrate) (regex : RegexCrate)
    (loop : PullLoop) (fresh : loop.consecutiveFailures = 0) (turns : List CycleTurn)
    (fails : AllFail config json regex loop turns) :
    BacksOff config.pollIntervalSec (delays config json regex loop turns) ↔
      WrapsHarmlessly config.pollIntervalSec turns.length := by
  have listed : (delays config json regex loop turns).map UInt64.toNat =
      (List.range turns.length).map fun earlier =>
        (backoff config.pollIntervalSec (UInt32.ofNat (earlier + 1))).toNat := by
    rw [delays_eq fails, List.map_map, fresh]
    refine List.map_congr_left fun earlier _ => ?_
    rw [Function.comp_apply, UInt32.zero_add]
  have due_iff : ((delays config json regex loop turns).map UInt64.toNat =
      (List.range (delays config json regex loop turns).length).map fun earlier =>
        dueDelay config.pollIntervalSec (earlier + 1)) ↔
      WrapsHarmlessly config.pollIntervalSec turns.length := by
    rw [listed, length_delays, List.map_inj_left, ← isDue_all_iff]
    constructor
    · intro due n positive within
      have found := due (n - 1) (List.mem_range.mpr (by omega))
      rwa [Nat.sub_add_cancel positive] at found
    · intro due earlier member
      exact due (earlier + 1) (by omega) (List.mem_range.mp member)
  refine ⟨fun exact_delays => due_iff.mp exact_delays.due, fun harmless => ?_⟩
  have due := due_iff.mpr harmless
  refine ⟨due, ?_⟩
  have ordered : ((delays config json regex loop turns).map UInt64.toNat).Pairwise (· ≤ ·) := by
    rw [due, List.pairwise_map]
    exact List.pairwise_lt_range.imp fun lt => dueDelay_mono (Nat.succ_le_succ lt.le)
  exact (List.pairwise_map.mp ordered).imp fun le => UInt64.le_iff_toNat_le.mpr le

/-- A system whose interval is so long that doubling it wraps round to zero. -/
def longSystem : PullSystemConfig :=
  ⟨"https://relay.org".toList, "bridge".toList, 0x8000000000000000⟩

/-- A cycle in which the relay does not answer. -/
def silentTurn : CycleTurn :=
  { quietTurn .null with relay := none }

/-- A relay that is silent for any number of cycles makes all of them fail. -/
theorem silentTurns_fail (config : PullSystemConfig) (count : Nat) :
    AllFail config nullCrate RegexCrate.simple servingLoop (List.replicate count silentTurn) := by
  have fails : ∀ loop : PullLoop, loop.stopped = false → loop.router = servingLoop.router →
      AllFail config nullCrate RegexCrate.simple loop (List.replicate count silentTurn) := by
    induction count with
    | zero => exact fun _ _ _ => trivial
    | succ count induction =>
        intro loop running router
        have failed : fetchPending (silentTurn.change loop.router) silentTurn.relay = none := by
          rw [router]
          rfl
        have first : FetchFails loop silentTurn := ⟨running, rfl, failed⟩
        obtain ⟨clock, seen, cycles, same⟩ :=
          @goes_on_of_fails config nullCrate RegexCrate.simple loop silentTurn first
        rw [List.replicate_succ, AllFail, same]
        exact ⟨first, induction _ running router⟩
  exact fails servingLoop rfl rfl

/-- Seven failures of a system with the interval of ten seconds, and of the one that wraps. -/
theorem backsOff_iff_silent :
    (BacksOff polledSystem.pollIntervalSec
        (delays polledSystem nullCrate RegexCrate.simple servingLoop
          (List.replicate 7 silentTurn)) ↔
      WrapsHarmlessly polledSystem.pollIntervalSec 7) ∧
    (BacksOff longSystem.pollIntervalSec
        (delays longSystem nullCrate RegexCrate.simple servingLoop
          (List.replicate 7 silentTurn)) ↔
      WrapsHarmlessly longSystem.pollIntervalSec 7) :=
  ⟨backsOff_iff polledSystem nullCrate RegexCrate.simple servingLoop rfl _
      (silentTurns_fail polledSystem 7),
    backsOff_iff longSystem nullCrate RegexCrate.simple servingLoop rfl _
      (silentTurns_fail longSystem 7)⟩

/-- The relay that does not answer is asked again without any delay. -/
theorem no_delay :
    AllFail longSystem nullCrate RegexCrate.simple servingLoop [silentTurn] ∧
      delays longSystem nullCrate RegexCrate.simple servingLoop [silentTurn] = [0] ∧
      dueDelay longSystem.pollIntervalSec 1 = 300 ∧
      ¬ BacksOff longSystem.pollIntervalSec
        (delays longSystem nullCrate RegexCrate.simple servingLoop [silentTurn]) := by
  have wrapped : delayAfter longSystem servingLoop = 0 := by
    apply UInt64.toNat_inj.mp
    rw [delayAfter, toNat_backoff]
    rfl
  have immediate : delays longSystem nullCrate RegexCrate.simple servingLoop [silentTurn] = [0] :=
    congrArg (· :: []) wrapped
  have fails := silentTurns_fail longSystem 1
  rw [List.replicate_one] at fails
  refine ⟨fails, immediate, rfl, fun backs_off => ?_⟩
  have due := backs_off.due
  rw [immediate] at due
  have zero : (0 : Nat) = 300 := (List.cons.inj due).1
  omega

end AimailBridge
