import AimailBridge.Health.Streak
import AimailBridge.Router.PatternRoutes

/-!
# Whether a dead target stays removed

A round removes the exact routes to a dead target, and a lookup makes exact routes out of patterns.
The target comes back exactly when the first pattern for some email leads to it, and no exact route
to another target that is still alive keeps the email from the patterns.
-/

namespace AimailBridge

open Foundation Text ProfileRoute ProfileRouter

variable {fromStr : Text → Option (HashMap Text Text)} {regex : RegexCrate}

/-- No lookup, after any others, returns a route to the target. -/
def StaysRemoved (regex : RegexCrate) (router : ProfileRouter) (target : Text) : Prop :=
  ∀ earlier email route, (lookup regex (lookups regex router earlier) email).1 = some route →
    routeTargetKey route ≠ target

/-- The round leaves the email to the patterns: it has no exact route, or one that is removed. -/
def LeftToPatterns (round : HealthRound) (router : ProfileRouter) (failures : HashMap Text UInt32)
    (email : Text) : Prop :=
  ∀ route, router.routes.lookup email = some route →
    FailsForGood round failures (routeTargetKey route)

/-- The first pattern that matches the email leads to the target. -/
def PatternLeadsTo (regex : RegexCrate) (router : ProfileRouter) (email target : Text) : Prop :=
  ∃ pattern, matchPatterns regex router email = some pattern ∧
    routeTargetKey (ProfileRoute.new email pattern.host pattern.port) = target

/-- After a round, an email that it leaves to the patterns is answered from them. -/
theorem lookup_checkRoutes (round : HealthRound) {router : ProfileRouter}
    (keyed : Keyed router.routes) (failures : HashMap Text UInt32) (email : Text) :
    (lookup regex (checkRoutes round router failures).1 email).1 =
      ((router.routes.lookup email).filter fun route =>
        !decide (FailsForGood round failures (routeTargetKey route))).or
          ((matchPatterns regex router email).map fun pattern =>
            ProfileRoute.new email pattern.host pattern.port) := by
  rw [lookup_eq, checkRoutes_lookup round keyed, matchPatterns, matchPatterns,
    checkRoutes_regexPatterns]

theorem staysRemoved_iff (round : HealthRound) {router : ProfileRouter}
    (keyed : Keyed router.routes) (failures : HashMap Text UInt32) {target : Text}
    (dead : FailsForGood round failures target) :
    StaysRemoved regex (checkRoutes round router failures).1 target ↔
      ∀ email, LeftToPatterns round router failures email →
        ¬ PatternLeadsTo regex router email target := by
  have answers : ∀ earlier email,
      (lookup regex (lookups regex (checkRoutes round router failures).1 earlier) email).1 = _ :=
    fun earlier email => (lookup_lookups _ earlier email).trans
      (lookup_checkRoutes round keyed failures email)
  constructor
  · rintro stays email left ⟨pattern, found, key⟩
    have removed : ((router.routes.lookup email).filter fun route =>
        !decide (FailsForGood round failures (routeTargetKey route))) = none := by
      rw [Option.filter_eq_none_iff]
      intro route known
      simp [left route known]
    refine stays [] email (ProfileRoute.new email pattern.host pattern.port) ?_ key
    rw [answers, removed, Option.none_or, found, Option.map_some]
  · intro unled earlier email route answer key
    rw [answers] at answer
    cases kept : (router.routes.lookup email).filter fun route =>
        !decide (FailsForGood round failures (routeTargetKey route)) with
    | some known =>
        rw [kept, Option.some_or, Option.some.injEq] at answer
        obtain rfl := answer
        have alive := (Option.filter_eq_some_iff.mp kept).2
        simp [key, dead] at alive
    | none =>
        rw [kept, Option.none_or] at answer
        obtain ⟨pattern, found, rfl⟩ := Option.map_eq_some_iff.mp answer
        refine unled email (fun known in_table => ?_) ⟨pattern, found, key⟩
        have removed := Option.filter_eq_none_iff.mp kept known in_table
        simpa using removed

theorem keyed_step {failThreshold : UInt32} {checker : Checker}
    (keyed : Keyed checker.router.routes) (action : CheckerAction) :
    Keyed (checker.step fromStr regex failThreshold action).router.routes := by
  cases action with
  | call call => exact keyed_apply keyed call
  | check round => exact keyed_checkRoutes _ keyed _

theorem keyed_checker {failThreshold : UInt32} {checker : Checker}
    (keyed : Keyed checker.router.routes) (run : List CheckerAction) :
    Keyed (run.foldl (Checker.step fromStr regex failThreshold) checker).router.routes := by
  induction run generalizing checker with
  | nil => exact keyed
  | cons action run induction => exact induction (keyed_step keyed action)

/-- A target that a round declares dead stays removed exactly when no email that the round leaves to
the patterns is led to it by one. -/
theorem deadTarget_staysRemoved_iff (failThreshold : UInt32) (routesFile : Option Text)
    (run : List CheckerAction) (round : HealthRound) {checker : Checker} {target : Text}
    (reached : run.foldl (Checker.step fromStr regex failThreshold) (Checker.start routesFile) =
      checker)
    (dead : target ∈ deadTargets round checker.router checker.failures) :
    StaysRemoved regex (checkRoutes round checker.router checker.failures).1 target ↔
      ∀ email, LeftToPatterns round checker.router checker.failures email →
        ¬ PatternLeadsTo regex checker.router email target := by
  have keyed_start : Keyed (Checker.start routesFile).router.routes := HashMap.all_empty _
  have keyed : Keyed checker.router.routes := reached ▸ keyed_checker keyed_start run
  exact staysRemoved_iff round keyed checker.failures (mem_deadTargets_iff.mp dead).2

/-- A file with a pattern, loaded, and a lookup that it answers. -/
def servedByPattern : List CheckerAction :=
  [.call (.edit (some patternFile)), .call (.load (.inOrder _ _)),
    .call (.lookup "agent@x.org".toList)]

/-- The routes that a pattern gave rise to come back with the next lookup. -/
theorem pattern_revives_target :
    let checker := servedByPattern.foldl (Checker.step Toml.fragment RegexCrate.simple 1)
      (Checker.start none)
    "10.0.0.7:8645".toList ∈
        deadTargets (nothingReachable 1) checker.router checker.failures ∧
      ¬ StaysRemoved RegexCrate.simple
        (checkRoutes (nothingReachable 1) checker.router checker.failures).1
        "10.0.0.7:8645".toList := by
  refine ⟨by decide, fun stays => ?_⟩
  exact stays [] "agent@x.org".toList
    (ProfileRoute.new "agent@x.org".toList "10.0.0.7".toList 8645) (by decide) (by decide)

/-- Without patterns, a dead target stays removed. -/
theorem registered_target_staysRemoved :
    StaysRemoved RegexCrate.simple
      (checkRoutes (nothingReachable 1)
        (updateRoute .done (ProfileRouter.new none) "bot@x.org".toList "10.0.0.7".toList 8645) ∅).1
      "10.0.0.7:8645".toList := by
  have registered : [CheckerAction.call (.create .done "bot@x.org".toList "10.0.0.7".toList 8645)
      ].foldl (Checker.step Toml.fragment RegexCrate.simple 1) (Checker.start none) =
        ⟨updateRoute .done (ProfileRouter.new none) "bot@x.org".toList "10.0.0.7".toList 8645, ∅,
          []⟩ := rfl
  refine (deadTarget_staysRemoved_iff 1 none _ (nothingReachable 1) registered (by decide)).mpr ?_
  rintro email _ ⟨pattern, found, _⟩
  simp [matchPatterns, updateRoute, writeCurrentRoutes, ProfileRouter.new] at found

end AimailBridge
