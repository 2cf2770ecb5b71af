import AimailBridge.Health.Check

/-!
# What one round does

A round probes each endpoint of the table once, so the count of each changes by its own probe alone,
and an endpoint is declared dead when its own probe fails at the threshold.  What remains of the
table are the routes to the other endpoints.
-/

namespace AimailBridge

open Foundation Text ProfileRoute ProfileRouter

/-- Some route of the table leads to the target. -/
def Listed (router : ProfileRouter) (target : Text) : Prop :=
  ∃ email route, router.routes.lookup email = some route ∧ routeTargetKey route = target

/-- What the probe of a target finds, if its key names an endpoint to probe. -/
def probeOutcome (round : HealthRound) (target : Text) : Option Bool :=
  (probedEndpoint target).map fun (host, port) => round.reachable host port

/-- The failures in a row that a target stands at. -/
def failureCount (failures : HashMap Text UInt32) (target : Text) : UInt32 :=
  (failures.lookup target).getD 0

/-- The probe of the target fails, at the threshold or beyond it. -/
def FailsForGood (round : HealthRound) (failures : HashMap Text UInt32) (target : Text) : Prop :=
  probeOutcome round target = some false ∧ round.failThreshold ≤ failureCount failures target + 1

instance (round : HealthRound) (failures : HashMap Text UInt32) (target : Text) :
    Decidable (FailsForGood round failures target) :=
  inferInstanceAs (Decidable (_ ∧ _))

/-- The count that the probe of a target leaves, where it leaves one. -/
def countAfterProbe (round : HealthRound) (failures : HashMap Text UInt32) (target : Text) :
    Option UInt32 :=
  match probeOutcome round target with
  | none => failures.lookup target
  | some true => none
  | some false => some (failureCount failures target + 1)

/-- A round in which nothing can be reached. -/
def nothingReachable (failThreshold : UInt32) : HealthRound where
  failThreshold := failThreshold
  reachable _ _ := false
  routeOrder := .inOrder _ _
  targetOrder := .inOrder _ _

/-! ## The probes -/

section Probes

variable {round : HealthRound} {failures : HashMap Text UInt32} {deadTargets : List Text}

theorem probeTarget_eq (target : Text) :
    probeTarget round (failures, deadTargets) target =
      match probeOutcome round target with
      | none => (failures, deadTargets)
      | some true => (failures.erase target, deadTargets)
      | some false =>
          (failures.insert target (failureCount failures target + 1),
            if round.failThreshold ≤ failureCount failures target + 1 then deadTargets ++ [target]
            else deadTargets) := by
  simp only [probeTarget, probeOutcome, failureCount]
  cases probedEndpoint target with
  | none => rfl
  | some endpoint =>
      simp only [Option.map_some]
      cases round.reachable endpoint.1 endpoint.2 <;> rfl

/-- A probe changes the count of its own target only. -/
theorem probeTarget_lookup (target other : Text) :
    (probeTarget round (failures, deadTargets) target).1.lookup other =
      if other = target then countAfterProbe round failures target else failures.lookup other := by
  rw [probeTarget_eq, countAfterProbe]
  by_cases same : other = target
  · subst same
    cases probeOutcome round other with
    | none => simp
    | some reached => cases reached <;> simp
  · cases probeOutcome round target with
    | none => simp [same]
    | some reached => cases reached <;> simp [same]

/-- A probe notes its own target only, and only when it fails for good. -/
theorem mem_probeTarget (target other : Text) :
    other ∈ (probeTarget round (failures, deadTargets) target).2 ↔
      other ∈ deadTargets ∨ (other = target ∧ FailsForGood round failures target) := by
  rw [probeTarget_eq, FailsForGood]
  cases probeOutcome round target with
  | none => simp
  | some reached =>
      cases reached with
      | true => simp
      | false =>
          by_cases last : round.failThreshold ≤ failureCount failures target + 1 <;> simp [last]

theorem failureCount_congr {later : HashMap Text UInt32} {target : Text}
    (same : later.lookup target = failures.lookup target) :
    failureCount later target = failureCount failures target := by
  rw [failureCount, failureCount, same]

theorem countAfterProbe_congr {later : HashMap Text UInt32} {target : Text}
    (same : later.lookup target = failures.lookup target) :
    countAfterProbe round later target = countAfterProbe round failures target := by
  rw [countAfterProbe, countAfterProbe, same, failureCount_congr same]

theorem failsForGood_congr {later : HashMap Text UInt32} {target : Text}
    (same : later.lookup target = failures.lookup target) :
    FailsForGood round later target ↔ FailsForGood round failures target := by
  rw [FailsForGood, FailsForGood, failureCount_congr same]

/-- After the probes of distinct targets, each target has the count that its own probe leaves. -/
theorem foldl_probeTarget_lookup {targets : List Text} (distinct : targets.Nodup) (other : Text) :
    (targets.foldl (probeTarget round) (failures, deadTargets)).1.lookup other =
      if other ∈ targets then countAfterProbe round failures other else failures.lookup other := by
  induction targets generalizing failures deadTargets with
  | nil => rfl
  | cons target targets induction =>
      obtain ⟨fresh, distinct⟩ := List.nodup_cons.mp distinct
      have own := @probeTarget_lookup round failures deadTargets target
      rw [List.foldl_cons, ← Prod.mk.eta (p := probeTarget round (failures, deadTargets) target),
        induction distinct]
      by_cases same : other = target
      · subst same
        simp [fresh, own]
      · have unchanged : (probeTarget round (failures, deadTargets) target).1.lookup other =
            failures.lookup other := by rw [own, if_neg same]
        simp [same, unchanged, countAfterProbe_congr unchanged]

/-- After the probes of distinct targets, those that fail for good are noted. -/
theorem mem_foldl_probeTarget {targets : List Text} (distinct : targets.Nodup) (other : Text) :
    other ∈ (targets.foldl (probeTarget round) (failures, deadTargets)).2 ↔
      other ∈ deadTargets ∨ (other ∈ targets ∧ FailsForGood round failures other) := by
  induction targets generalizing failures deadTargets with
  | nil => simp
  | cons target targets induction =>
      obtain ⟨fresh, distinct⟩ := List.nodup_cons.mp distinct
      rw [List.foldl_cons, ← Prod.mk.eta (p := probeTarget round (failures, deadTargets) target),
        induction distinct, mem_probeTarget]
      by_cases same : other = target
      · subst same
        simp [fresh]
      · have unchanged : (probeTarget round (failures, deadTargets) target).1.lookup other =
            failures.lookup other := by rw [probeTarget_lookup, if_neg same]
        simp [same, failsForGood_congr unchanged]

end Probes

/-! ## The targets of a round -/

/-- A group is there for each target of an entry, and for those that were there before. -/
theorem foldl_groups_isSome (entries : List (Σ _ : Text, ProfileRoute))
    (groups : HashMap Text (List Text)) (target : Text) :
    ((entries.foldl (fun groups entry =>
      groups.insert (routeTargetKey entry.2)
        ((groups.lookup (routeTargetKey entry.2)).getD [] ++ [entry.2.email])) groups).lookup
          target).isSome ↔
      (groups.lookup target).isSome ∨ ∃ entry ∈ entries, routeTargetKey entry.2 = target := by
  induction entries generalizing groups with
  | nil => simp
  | cons entry entries induction =>
      rw [List.foldl_cons, induction]
      by_cases same : target = routeTargetKey entry.2
      · rw [same, AList.lookup_insert]
        simp
      · rw [AList.lookup_insert_ne same]
        simp [Ne.symm same]

/-- The targets of a round are those that routes of the table lead to. -/
theorem mem_roundTargets_iff {round : HealthRound} {router : ProfileRouter} {target : Text} :
    target ∈ roundTargets round (groupTargets round.routeOrder router) ↔ Listed router target := by
  have grouped : target ∈ roundTargets round (groupTargets round.routeOrder router) ↔
      ((groupTargets round.routeOrder router).lookup target).isSome := by
    rw [roundTargets, ← HashMap.mem_keys_iff_lookup]
    exact ((round.targetOrder.perm _).map Sigma.fst).mem_iff
  rw [grouped, groupTargets, foldl_groups_isSome, Listed]
  simp only [AList.lookup_empty, Option.isSome_none, Bool.false_eq_true, false_or]
  constructor
  · rintro ⟨entry, walked, same⟩
    exact ⟨entry.1, entry.2, round.routeOrder.mem_walk_iff.mp walked, same⟩
  · rintro ⟨email, route, found, same⟩
    exact ⟨⟨email, route⟩, round.routeOrder.mem_walk_iff.mpr found, same⟩

/-- Each target is met once. -/
theorem nodup_roundTargets (round : HealthRound) (groups : HashMap Text (List Text)) :
    (roundTargets round groups).Nodup :=
  round.targetOrder.nodupKeys groups.nodupKeys

/-- A group that has begun keeps its emails, and each entry adds its own. -/
theorem mem_foldl_groups {entries : List (Σ _ : Text, ProfileRoute)}
    {groups : HashMap Text (List Text)} {target email : Text}
    (member : email ∈ (groups.lookup target).getD [] ∨
      ∃ entry ∈ entries, routeTargetKey entry.2 = target ∧ entry.2.email = email) :
    email ∈ ((entries.foldl (fun groups entry =>
      groups.insert (routeTargetKey entry.2)
        ((groups.lookup (routeTargetKey entry.2)).getD [] ++ [entry.2.email])) groups).lookup
          target).getD [] := by
  induction entries generalizing groups with
  | nil => simpa using member
  | cons entry entries induction =>
      rw [List.foldl_cons]
      apply induction
      by_cases same : target = routeTargetKey entry.2
      · subst same
        rw [AList.lookup_insert, Option.getD_some, List.mem_append, List.mem_singleton]
        rcases member with before | ⟨other, inside, key, rfl⟩
        · exact Or.inl (Or.inl before)
        · rcases List.mem_cons.mp inside with rfl | later
          · exact Or.inl (Or.inr rfl)
          · exact Or.inr ⟨other, later, key, rfl⟩
      · rw [AList.lookup_insert_ne same]
        rcases member with before | ⟨other, inside, key, rfl⟩
        · exact Or.inl before
        · rcases List.mem_cons.mp inside with rfl | later
          · exact absurd key.symm same
          · exact Or.inr ⟨other, later, key, rfl⟩

/-- The group of a target has the emails of the routes that lead to it. -/
theorem mem_group_iff (order : IterationOrder Text ProfileRoute) {router : ProfileRouter}
    (keyed : Keyed router.routes) {target email : Text} :
    email ∈ ((groupTargets order router).lookup target).getD [] ↔
      ∃ route, router.routes.lookup email = some route ∧ routeTargetKey route = target := by
  constructor
  · intro member
    cases found : (groupTargets order router).lookup target with
    | none => simp [found] at member
    | some emails =>
        rw [found, Option.getD_some] at member
        exact groupTargets_all order keyed target emails found email member
  · rintro ⟨route, found, same⟩
    refine mem_foldl_groups (Or.inr ⟨⟨email, route⟩, order.mem_walk_iff.mpr found, same, ?_⟩)
    exact keyed email route found

/-! ## The round -/

/-- The targets that a round declares dead. -/
def deadTargets (round : HealthRound) (router : ProfileRouter) (failures : HashMap Text UInt32) :
    List Text :=
  ((roundTargets round (groupTargets round.routeOrder router)).foldl (probeTarget round)
    (failures, [])).2

theorem mem_deadTargets_iff {round : HealthRound} {router : ProfileRouter}
    {failures : HashMap Text UInt32} {target : Text} :
    target ∈ deadTargets round router failures ↔
      Listed router target ∧ FailsForGood round failures target := by
  rw [deadTargets, mem_foldl_probeTarget (nodup_roundTargets _ _), mem_roundTargets_iff]
  simp

theorem not_listed_of_empty {router : ProfileRouter} (empty : listRoutes router = [])
    (target : Text) : ¬ Listed router target := by
  rintro ⟨email, route, found, _⟩
  have member : route ∈ listRoutes router :=
    List.mem_map.mpr ⟨⟨email, route⟩, AList.mem_lookup_iff.mp found, rfl⟩
  rw [empty] at member
  simp at member

theorem foldl_removeRoute_lookup (emails : List Text) (router : ProfileRouter) (email : Text) :
    (emails.foldl (removeRoute .done) router).routes.lookup email =
      if email ∈ emails then none else router.routes.lookup email := by
  induction emails generalizing router with
  | nil => simp
  | cons first emails induction =>
      rw [List.foldl_cons, induction]
      change (if email ∈ emails then none else (router.routes.erase first).lookup email) = _
      by_cases same : email = first
      · subst same
        simp
      · simp [same]

theorem foldl_removeRoute_regexPatterns (emails : List Text) (router : ProfileRouter) :
    (emails.foldl (removeRoute .done) router).regexPatterns = router.regexPatterns := by
  induction emails generalizing router with
  | nil => rfl
  | cons email emails induction => exact induction _

theorem checkRoutes_of_nonempty {router : ProfileRouter} (nonempty : listRoutes router ≠ [])
    (round : HealthRound) (failures : HashMap Text UInt32) :
    checkRoutes round router failures =
      ((deadEmails (groupTargets round.routeOrder router)
          (deadTargets round router failures)).foldl (removeRoute .done) router,
        (deadTargets round router failures).foldl (fun failures target => failures.erase target)
          ((roundTargets round (groupTargets round.routeOrder router)).foldl (probeTarget round)
            (failures, [])).1) := by
  rw [checkRoutes, if_neg nonempty]
  rfl

/-- A round leaves the routes to the targets that do not fail for good. -/
theorem checkRoutes_lookup (round : HealthRound) {router : ProfileRouter}
    (keyed : Keyed router.routes) (failures : HashMap Text UInt32) (email : Text) :
    (checkRoutes round router failures).1.routes.lookup email =
      (router.routes.lookup email).filter fun route =>
        !decide (FailsForGood round failures (routeTargetKey route)) := by
  have removed : email ∈ deadEmails (groupTargets round.routeOrder router)
      (deadTargets round router failures) ↔ ∃ route, router.routes.lookup email = some route ∧
        FailsForGood round failures (routeTargetKey route) := by
    simp only [deadEmails, List.mem_flatMap, mem_deadTargets_iff, mem_group_iff _ keyed]
    constructor
    · rintro ⟨target, ⟨_, fails⟩, route, found, rfl⟩
      exact ⟨route, found, fails⟩
    · rintro ⟨route, found, fails⟩
      exact ⟨routeTargetKey route, ⟨⟨email, route, found, rfl⟩, fails⟩, route, found, rfl⟩
  by_cases empty : listRoutes router = []
  · cases found : router.routes.lookup email with
    | none => simp [checkRoutes, empty, found]
    | some route => exact absurd ⟨email, route, found, rfl⟩ (not_listed_of_empty empty _)
  · rw [checkRoutes_of_nonempty empty, foldl_removeRoute_lookup, if_congr removed rfl rfl]
    cases router.routes.lookup email with
    | none => simp
    | some route =>
        by_cases fails : FailsForGood round failures (routeTargetKey route) <;>
          simp [fails, Option.filter_some]

theorem checkRoutes_regexPatterns (round : HealthRound) (router : ProfileRouter)
    (failures : HashMap Text UInt32) :
    (checkRoutes round router failures).1.regexPatterns = router.regexPatterns := by
  rw [checkRoutes]
  split
  · rfl
  · exact foldl_removeRoute_regexPatterns _ _

theorem foldl_erase_lookup (targets : List Text) (failures : HashMap Text UInt32) (target : Text) :
    (targets.foldl (fun failures target => failures.erase target) failures).lookup target =
      if target ∈ targets then none else failures.lookup target := by
  induction targets generalizing failures with
  | nil => simp
  | cons first targets induction =>
      rw [List.foldl_cons, induction]
      by_cases same : target = first
      · subst same
        simp
      · simp [same]

/-- A round leaves the count of a target without a route as it was. -/
theorem checkRoutes_failures_unlisted {round : HealthRound} {router : ProfileRouter}
    {failures : HashMap Text UInt32} {target : Text} (unlisted : ¬ Listed router target) :
    (checkRoutes round router failures).2.lookup target = failures.lookup target := by
  by_cases empty : listRoutes router = []
  · rw [checkRoutes, if_pos empty]
  · have alive : target ∉ deadTargets round router failures :=
      fun dead => unlisted (mem_deadTargets_iff.mp dead).1
    rw [checkRoutes_of_nonempty empty, foldl_erase_lookup, if_neg alive,
      foldl_probeTarget_lookup (nodup_roundTargets _ _),
      if_neg fun member => unlisted (mem_roundTargets_iff.mp member)]

/-- A round counts the probe of a target with a route, and forgets the count of a dead one. -/
theorem checkRoutes_failures_listed {round : HealthRound} {router : ProfileRouter}
    {failures : HashMap Text UInt32} {target : Text} (listed : Listed router target) :
    (checkRoutes round router failures).2.lookup target =
      if FailsForGood round failures target then none
      else countAfterProbe round failures target := by
  have nonempty : listRoutes router ≠ [] :=
    fun empty => not_listed_of_empty empty target listed
  have dead : target ∈ deadTargets round router failures ↔ FailsForGood round failures target := by
    rw [mem_deadTargets_iff, and_iff_right listed]
  rw [checkRoutes_of_nonempty nonempty, foldl_erase_lookup, if_congr dead rfl rfl,
    foldl_probeTarget_lookup (nodup_roundTargets _ _), if_pos (mem_roundTargets_iff.mpr listed)]

end AimailBridge
