import AimailBridge.Foundation.Runs
import AimailBridge.Health.Round

/-!
# Failures in a row

The checker keeps its counts from round to round while routes come and go.  A count goes up with a
failed probe and is dropped by a successful one, but a round that finds no route to the target
leaves it as it is.  A removal therefore rests on an unbroken run of failures exactly when, in the
rounds that its count is about, the target was in the table all along.
-/

namespace AimailBridge

open Foundation Text ProfileRouter

/-- What the checker has to show of one round. -/
structure RoundRecord where
  /-- The round. -/
  round : HealthRound
  /-- The router that the round started from. -/
  before : ProfileRouter
  /-- The router that it left. -/
  after : ProfileRouter

/-- The checker and the router beside it. -/
structure Checker where
  /-- The router. -/
  router : ProfileRouter
  /-- The failures in a row, by target. -/
  failures : HashMap Text UInt32
  /-- The rounds so far, newest first. -/
  rounds : List RoundRecord

/-- What happens beside or in the checker. -/
inductive CheckerAction
  /-- A call on the router, between two rounds. -/
  | call (call : RouterCall)
  /-- A round. -/
  | check (round : HealthRound)

namespace Checker

/-- The checker as it is started. -/
def start (routesFile : Option Text) : Checker :=
  ⟨.new routesFile, ∅, []⟩

/-- The checker after one action; every round goes by the configured threshold. -/
def step (fromStr : Text → Option (HashMap Text Text)) (regex : RegexCrate)
    (failThreshold : UInt32) (checker : Checker) : CheckerAction → Checker
  | .call call => { checker with router := apply fromStr regex checker.router call }
  | .check round =>
      let round := { round with failThreshold }
      let (router, failures) := checkRoutes round checker.router checker.failures
      ⟨router, failures, ⟨round, checker.router, router⟩ :: checker.rounds⟩

end Checker

/-- The round removes a route to the target. -/
def RoundRecord.Removes (record : RoundRecord) (target : Text) : Prop :=
  ∃ email route, record.before.routes.lookup email = some route ∧ routeTargetKey route = target ∧
    record.after.routes.lookup email = none

/-- The target is in the table, and its probe fails. -/
def RoundRecord.Fails (record : RoundRecord) (target : Text) : Prop :=
  Listed record.before target ∧ probeOutcome record.round target = some false

/-- The target has failed in each of the last rounds. -/
def FailedLast (target : Text) : Nat → List RoundRecord → Prop
  | 0, _ => True
  | _ + 1, [] => False
  | count + 1, record :: earlier => record.Fails target ∧ FailedLast target count earlier

/-- The target has been in the table in each of the last rounds. -/
def ListedLast (target : Text) : Nat → List RoundRecord → Prop
  | 0, _ => True
  | _ + 1, [] => False
  | count + 1, record :: earlier => Listed record.before target ∧ ListedLast target count earlier

/-- No round removes a route to a target that has not failed in as many rounds up to it as the
threshold asks for. -/
def UnbrokenRemovals (failThreshold : UInt32) : List RoundRecord → Prop
  | [] => True
  | record :: earlier =>
      (∀ target, record.Removes target →
        FailedLast target failThreshold.toNat (record :: earlier)) ∧
      UnbrokenRemovals failThreshold earlier

/-- A round counts a target out only if it was in the table in the rounds before, as many as the
threshold asks for. -/
def CountsUnbroken (failThreshold : UInt32) (checker : Checker) : CheckerAction → Prop
  | .call _ => True
  | .check round =>
      ∀ target, Listed checker.router target →
        FailsForGood { round with failThreshold } checker.failures target →
          ListedLast target (failThreshold.toNat - 1) checker.rounds

/-! ## Counts and history -/

/-- What the counts say of the rounds so far. -/
structure StreakInvariant (failThreshold : UInt32) (checker : Checker) : Prop where
  /-- Every route is kept under its own email. -/
  keyed : Keyed checker.router.routes
  /-- No count reaches the threshold. -/
  below : ∀ target, failureCount checker.failures target < failThreshold
  /-- Only targets that can be probed are counted. -/
  probed : ∀ target, 0 < failureCount checker.failures target →
    (probedEndpoint target).isSome
  /-- A target that has been in the table for no more rounds than are counted for it has failed in
  all of them. -/
  counted : ∀ target count, count ≤ (failureCount checker.failures target).toNat →
    ListedLast target count checker.rounds → FailedLast target count checker.rounds
  /-- The removals so far. -/
  removals : UnbrokenRemovals failThreshold checker.rounds

variable {fromStr : Text → Option (HashMap Text Text)} {regex : RegexCrate}
  {failThreshold : UInt32} {checker : Checker} {round : HealthRound} {target : Text}

theorem listedLast_of_failedLast {count : Nat} {rounds : List RoundRecord}
    (failed : FailedLast target count rounds) : ListedLast target count rounds := by
  induction count generalizing rounds with
  | zero => trivial
  | succ count induction =>
      cases rounds with
      | nil => exact failed.elim
      | cons record earlier => exact ⟨failed.1.1, induction failed.2⟩

/-- A round removes the routes to the targets of its table that fail for good, and no others. -/
theorem removes_check_iff (keyed : Keyed checker.router.routes) :
    RoundRecord.Removes ⟨round, checker.router,
        (checkRoutes round checker.router checker.failures).1⟩ target ↔
      Listed checker.router target ∧ FailsForGood round checker.failures target := by
  constructor
  · rintro ⟨email, route, found, rfl, removed⟩
    rw [checkRoutes_lookup round keyed, found, Option.filter_some] at removed
    refine ⟨⟨email, route, found, rfl⟩, ?_⟩
    simpa using removed
  · rintro ⟨⟨email, route, found, rfl⟩, fails⟩
    refine ⟨email, route, found, rfl, ?_⟩
    rw [checkRoutes_lookup round keyed, found, Option.filter_some]
    simp [fails]

theorem keyed_checkRoutes (round : HealthRound) {router : ProfileRouter}
    (keyed : Keyed router.routes) (failures : HashMap Text UInt32) :
    Keyed (checkRoutes round router failures).1.routes := by
  intro email route found
  rw [checkRoutes_lookup round keyed, Option.filter_eq_some_iff] at found
  exact keyed email route found.1

/-- What a round does to a count: it drops it, or leaves it to a target that is not in the table or
cannot be probed, or raises it below the threshold for a failed probe. -/
theorem failureCount_check (round : HealthRound) (router : ProfileRouter)
    (failures : HashMap Text UInt32) (target : Text) :
    failureCount (checkRoutes round router failures).2 target = 0 ∨
    (failureCount (checkRoutes round router failures).2 target = failureCount failures target ∧
      (¬ Listed router target ∨ probeOutcome round target = none)) ∨
    (failureCount (checkRoutes round router failures).2 target =
        failureCount failures target + 1 ∧
      Listed router target ∧ probeOutcome round target = some false ∧
        ¬ round.failThreshold ≤ failureCount failures target + 1) := by
  by_cases listed : Listed router target
  · have after := @checkRoutes_failures_listed round router failures target listed
    by_cases fails : FailsForGood round failures target
    · rw [if_pos fails] at after
      exact Or.inl (by rw [failureCount, after]; rfl)
    · rw [if_neg fails, countAfterProbe] at after
      cases outcome : probeOutcome round target with
      | none =>
          rw [outcome] at after
          exact Or.inr (Or.inl ⟨failureCount_congr after, Or.inr rfl⟩)
      | some reached =>
          rw [outcome] at after
          cases reached with
          | true => exact Or.inl (by rw [failureCount, after]; rfl)
          | false =>
              refine Or.inr (Or.inr ⟨?_, listed, rfl, fun last => fails ⟨outcome, last⟩⟩)
              rw [failureCount, after]
              rfl
  · exact Or.inr (Or.inl ⟨failureCount_congr (checkRoutes_failures_unlisted listed), Or.inl listed⟩)

theorem StreakInvariant.below_check (invariant : StreakInvariant failThreshold checker)
    (round : HealthRound) (target : Text) :
    failureCount (checkRoutes { round with failThreshold } checker.router checker.failures).2
      target < failThreshold := by
  rcases failureCount_check { round with failThreshold } checker.router checker.failures target with
    dropped | ⟨kept, _⟩ | ⟨raised, _, _, below⟩
  · rw [dropped]
    exact UInt32.lt_of_le_of_lt UInt32.zero_le (invariant.below target)
  · rw [kept]
    exact invariant.below target
  · rw [raised]
    exact UInt32.not_le.mp below

theorem StreakInvariant.probed_check (invariant : StreakInvariant failThreshold checker)
    (round : HealthRound)
    (counted : 0 < failureCount
      (checkRoutes { round with failThreshold } checker.router checker.failures).2 target) :
    (probedEndpoint target).isSome := by
  rcases failureCount_check { round with failThreshold } checker.router checker.failures target with
    dropped | ⟨kept, _⟩ | ⟨_, _, outcome, _⟩
  · rw [dropped] at counted
    exact absurd counted (by decide)
  · rw [kept] at counted
    exact invariant.probed target counted
  · obtain ⟨endpoint, probed, _⟩ := Option.map_eq_some_iff.mp outcome
    exact Option.isSome_of_eq_some probed

/-- The round is one more failure of a target whose count says so. -/
theorem StreakInvariant.counted_check (invariant : StreakInvariant failThreshold checker)
    (round : HealthRound) {count : Nat}
    (within : count + 1 ≤ (failureCount
      (checkRoutes { round with failThreshold } checker.router checker.failures).2 target).toNat)
    (listed : Listed checker.router target)
    (listed_before : ListedLast target count checker.rounds) :
    probeOutcome { round with failThreshold } target = some false ∧
      FailedLast target count checker.rounds := by
  rcases failureCount_check { round with failThreshold } checker.router checker.failures target with
    dropped | ⟨kept, idle⟩ | ⟨raised, _, outcome, _⟩
  · rw [dropped] at within
    exact absurd within (by simp)
  · rw [kept] at within
    rcases idle with unlisted | unprobed
    · exact absurd listed unlisted
    · -- a target that cannot be probed is not counted either
      have counted : 0 < failureCount checker.failures target :=
        UInt32.lt_iff_toNat_lt.mpr (Nat.lt_of_lt_of_le (Nat.succ_pos count) within)
      obtain ⟨endpoint, probed⟩ := Option.isSome_iff_exists.mp (invariant.probed target counted)
      simp [probeOutcome, probed] at unprobed
  · rw [raised, HashMap.toNat_succ_of_lt (invariant.below target)] at within
    exact ⟨outcome, invariant.counted target count (Nat.le_of_succ_le_succ within) listed_before⟩

/-- A target that is counted out has failed in as many rounds before as it was listed in. -/
theorem StreakInvariant.failed_before (invariant : StreakInvariant failThreshold checker)
    (round : HealthRound)
    (fails : FailsForGood { round with failThreshold } checker.failures target)
    (listed_before : ListedLast target (failThreshold.toNat - 1) checker.rounds) :
    FailedLast target (failThreshold.toNat - 1) checker.rounds := by
  refine invariant.counted target _ ?_ listed_before
  have last := UInt32.le_iff_toNat_le.mp fails.2
  rw [HashMap.toNat_succ_of_lt (invariant.below target)] at last
  exact Nat.sub_le_of_le_add last

/-- A round whose removals are unbroken keeps what the counts say of the rounds. -/
theorem streakInvariant_check (invariant : StreakInvariant failThreshold checker)
    (round : HealthRound)
    (unbroken : CountsUnbroken failThreshold checker (.check round)) :
    StreakInvariant failThreshold (checker.step fromStr regex failThreshold (.check round)) := by
  refine ⟨keyed_checkRoutes _ invariant.keyed _, invariant.below_check round,
    fun target => invariant.probed_check round, fun target count within listed => ?_,
    fun target removed => ?_, invariant.removals⟩
  · cases count with
    | zero => trivial
    | succ count =>
        obtain ⟨listed, listed_before⟩ := listed
        obtain ⟨outcome, failed⟩ := invariant.counted_check round within listed listed_before
        exact ⟨⟨listed, outcome⟩, failed⟩
  · obtain ⟨listed, fails⟩ := (removes_check_iff invariant.keyed).mp removed
    have failed := invariant.failed_before round fails (unbroken target listed fails)
    have positive : 0 < failThreshold.toNat :=
      Nat.lt_of_le_of_lt (Nat.zero_le _) (UInt32.lt_iff_toNat_lt.mp (invariant.below target))
    rw [show failThreshold.toNat = failThreshold.toNat - 1 + 1 by omega]
    exact ⟨⟨listed, fails.1⟩, failed⟩

theorem streakInvariant_step (invariant : StreakInvariant failThreshold checker)
    (action : CheckerAction) (unbroken : CountsUnbroken failThreshold checker action) :
    StreakInvariant failThreshold (checker.step fromStr regex failThreshold action) := by
  cases action with
  | call call =>
      exact ⟨keyed_apply invariant.keyed call, invariant.below, invariant.probed,
        invariant.counted, invariant.removals⟩
  | check round => exact streakInvariant_check invariant round unbroken

/-- A removal at the end of a break shows at once. -/
theorem countsUnbroken_of_removals (positive : 0 < failThreshold)
    (invariant : StreakInvariant failThreshold checker) (action : CheckerAction)
    (removals : UnbrokenRemovals failThreshold
      (checker.step fromStr regex failThreshold action).rounds) :
    CountsUnbroken failThreshold checker action := by
  cases action with
  | call call => trivial
  | check round =>
      intro target listed fails
      have failed := removals.1 target ((removes_check_iff invariant.keyed).mpr ⟨listed, fails⟩)
      have some_rounds := UInt32.lt_iff_toNat_lt.mp positive
      rw [show failThreshold.toNat = failThreshold.toNat - 1 + 1 by omega] at failed
      exact listedLast_of_failedLast failed.2

theorem streakInvariant_start (positive : 0 < failThreshold) (routesFile : Option Text) :
    StreakInvariant failThreshold (Checker.start routesFile) where
  keyed := HashMap.all_empty _
  below _ := positive
  probed _ counted := absurd counted (by simp [Checker.start, failureCount])
  counted target count within _ := by
    obtain rfl : count = 0 := by simpa [Checker.start, failureCount] using within
    trivial
  removals := trivial

/-- All removals of a run rest on unbroken failures exactly when each round of the run counts a
target out only after it has been in the table for as many rounds. -/
theorem unbrokenRemovals_run_iff (positive : 0 < failThreshold) (routesFile : Option Text)
    (run : List CheckerAction) :
    Throughout (Checker.step fromStr regex failThreshold)
        (fun checker => UnbrokenRemovals failThreshold checker.rounds)
        (Checker.start routesFile) run ↔
      Guarded (Checker.step fromStr regex failThreshold) (CountsUnbroken failThreshold)
        (Checker.start routesFile) run :=
  @throughout_iff_guarded Checker CheckerAction (Checker.step fromStr regex failThreshold)
    (StreakInvariant failThreshold) _ (CountsUnbroken failThreshold)
    (fun _ => StreakInvariant.removals)
    (fun _ action invariant unbroken => streakInvariant_step invariant action unbroken)
    (fun _ action invariant removals =>
      countsUnbroken_of_removals positive invariant action removals)
    _ (streakInvariant_start positive routesFile) run

/-! ## A break -/

/-- An agent that is down while its route is unregistered and registered again. -/
def unregisteredBetween : List CheckerAction :=
  [.call (.create .done "bot@x.org".toList "10.0.0.7".toList 8645), .check (nothingReachable 2),
    .call (.delete .done "bot@x.org".toList), .check (nothingReachable 2),
    .call (.create .done "bot@x.org".toList "10.0.0.7".toList 8645), .check (nothingReachable 2)]

/-- The new route is removed at its first failure, although two in a row are asked for. -/
theorem failure_across_break : ¬ Throughout (Checker.step Toml.fragment RegexCrate.simple 2)
    (fun checker => UnbrokenRemovals 2 checker.rounds) (Checker.start none)
    unregisteredBetween := by
  intro throughout
  obtain ⟨removals, _⟩ := throughout unregisteredBetween (List.prefix_refl _)
  have failed := removals "10.0.0.7:8645".toList
    ⟨"bot@x.org".toList, ProfileRoute.new "bot@x.org".toList "10.0.0.7".toList 8645, by decide,
      by decide, by decide⟩
  obtain ⟨_, ⟨⟨email, route, found, _⟩, _⟩, _⟩ := failed
  have empty : ((([.call (.create .done "bot@x.org".toList "10.0.0.7".toList 8645),
      .check (nothingReachable 2), .call (.delete .done "bot@x.org".toList)] :
        List CheckerAction).foldl (Checker.step Toml.fragment RegexCrate.simple 2)
          (Checker.start none)).router.routes) = ∅ := AList.ext (by decide)
  have none_found : (∅ : HashMap Text ProfileRoute).lookup email = some route := empty ▸ found
  simp at none_found

/-- An agent that stays registered and is down. -/
def registeredThroughout : List CheckerAction :=
  [.call (.create .done "bot@x.org".toList "10.0.0.7".toList 8645), .check (nothingReachable 2),
    .check (nothingReachable 2)]

/-- Its route is removed after two failures in a row. -/
theorem failures_in_a_row : Throughout (Checker.step Toml.fragment RegexCrate.simple 2)
    (fun checker => UnbrokenRemovals 2 checker.rounds) (Checker.start none)
    registeredThroughout := by
  refine (unbrokenRemovals_run_iff (by decide) none registeredThroughout).mpr
    ⟨trivial, ?_, ?_, trivial⟩
  · rintro target _ ⟨_, last⟩
    have uncounted : failureCount (∅ : HashMap Text UInt32) target = 0 := by simp [failureCount]
    change 2 ≤ failureCount (∅ : HashMap Text UInt32) target + 1 at last
    rw [uncounted] at last
    exact absurd last (by decide)
  · intro target listed _
    have same : ((registeredThroughout.take 2).foldl
        (Checker.step Toml.fragment RegexCrate.simple 2) (Checker.start none)).router.routes =
      ((registeredThroughout.take 1).foldl
        (Checker.step Toml.fragment RegexCrate.simple 2) (Checker.start none)).router.routes :=
      AList.ext (by decide)
    obtain ⟨email, route, found, key⟩ := listed
    exact ⟨⟨email, route, same ▸ found, key⟩, trivial⟩

end AimailBridge
