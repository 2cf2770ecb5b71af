import AimailBridge.Foundation.Interleaving
import AimailBridge.Health.Check

/-!
# The health check among registrations

A round decides on a snapshot of the routes and removes by email, many probes later.  It removes
only routes to endpoints that it found dead exactly when nobody has meanwhile registered one of its
emails with another endpoint.
-/

namespace AimailBridge

open Foundation Text ProfileRouter

/-- A removal of a round. -/
structure Removal where
  /-- The email. -/
  email : Text
  /-- The route that was removed. -/
  removed : Option ProfileRoute
  /-- The targets that the round found dead. -/
  deadTargets : List Text

/-- The router and the failure counts, with the registrations and removals so far, newest first. -/
structure Monitored where
  /-- The router. -/
  router : ProfileRouter
  /-- Failures in a row of each target. -/
  failures : HashMap Text UInt32
  /-- The registrations. -/
  updates : List (Text × ProfileRoute)
  /-- The removals by health checks. -/
  removals : List Removal

/-- What a round keeps of its snapshot. -/
structure Snapshot where
  /-- The emails of the routes to each target. -/
  groups : HashMap Text (List Text)
  /-- How many registrations there had been. -/
  since : Nat

/-- The points between the atomic steps of rounds and registrations. -/
inductive HealthPoint
  /-- Before the routes are listed. -/
  | list (round : HealthRound)
  /-- Before the next target is probed. -/
  | probe (round : HealthRound) (snapshot : Snapshot) (targets deadTargets : List Text)
  /-- Before the next route is removed under the write lock. -/
  | remove (snapshot : Snapshot) (deadTargets emails : List Text)
  /-- Before the file is written after a removal. -/
  | persist (snapshot : Snapshot) (deadTargets emails : List Text)
  /-- Before a registration inserts its route under the write lock. -/
  | insert (email hostOrUrl : Text) (port : UInt16)
  /-- Before a registration writes the file. -/
  | write

/-- The lock sections, probes and file writes of `check_routes` and `update_route`. -/
def healthProgram : Program Monitored HealthPoint where
  entry
    | .list _ | .insert _ _ _ => true
    | _ => false
  step shared
    | .list round =>
        if listRoutes shared.router = [] then some (shared, none)
        else
          let groups := groupTargets round.routeOrder shared.router
          some (shared, some (.probe round ⟨groups, shared.updates.length⟩
            (roundTargets round groups) []))
    | .probe round snapshot (target :: targets) deadTargets =>
        let (failures, deadTargets) := probeTarget round (shared.failures, deadTargets) target
        some ({ shared with failures }, some (.probe round snapshot targets deadTargets))
    | .probe _ snapshot [] deadTargets =>
        some (shared, some (.remove snapshot deadTargets (deadEmails snapshot.groups deadTargets)))
    | .remove snapshot deadTargets (email :: emails) =>
        some ({ shared with
          router := { shared.router with routes := shared.router.routes.erase email }
          removals := ⟨email, shared.router.routes.lookup email, deadTargets⟩ :: shared.removals },
          some (.persist snapshot deadTargets emails))
    | .remove _ deadTargets [] =>
        some ({ shared with
          failures := deadTargets.foldl (fun failures target => failures.erase target)
            shared.failures }, none)
    | .persist snapshot deadTargets emails =>
        some ({ shared with router := writeCurrentRoutes .done shared.router },
          some (.remove snapshot deadTargets emails))
    | .insert email hostOrUrl port =>
        let route := routeOfRequest email hostOrUrl port
        some ({ shared with
          router := { shared.router with routes := shared.router.routes.insert email route }
          updates := (email, route) :: shared.updates }, some .write)
    | .write => some ({ shared with router := writeCurrentRoutes .done shared.router }, none)

/-! ## A round that runs alone -/

theorem alone_remove (snapshot : Snapshot) (deadTargets emails : List Text) (shared : Monitored) :
    ∃ fuel removals, healthProgram.alone fuel shared (.remove snapshot deadTargets emails) =
      some { shared with
        router := emails.foldl (removeRoute .done) shared.router
        failures := deadTargets.foldl (fun failures target => failures.erase target) shared.failures
        removals := removals } := by
  induction emails generalizing shared with
  | nil => exact ⟨1, shared.removals, rfl⟩
  | cons email emails induction =>
      obtain ⟨fuel, removals, runs⟩ := induction { shared with
        router := removeRoute .done shared.router email
        removals := ⟨email, shared.router.routes.lookup email, deadTargets⟩ :: shared.removals }
      exact ⟨fuel + 2, removals, runs⟩

theorem alone_probe (round : HealthRound) (snapshot : Snapshot) (targets deadTargets : List Text)
    (shared : Monitored) :
    let probed := targets.foldl (probeTarget round) (shared.failures, deadTargets)
    ∃ fuel removals, healthProgram.alone fuel shared (.probe round snapshot targets deadTargets) =
      some { shared with
        router := (deadEmails snapshot.groups probed.2).foldl (removeRoute .done) shared.router
        failures := probed.2.foldl (fun failures target => failures.erase target) probed.1
        removals := removals } := by
  induction targets generalizing shared deadTargets with
  | nil =>
      obtain ⟨fuel, removals, runs⟩ :=
        alone_remove snapshot deadTargets (deadEmails snapshot.groups deadTargets) shared
      exact ⟨fuel + 1, removals, runs⟩
  | cons target targets induction =>
      obtain ⟨fuel, removals, runs⟩ := induction
        (probeTarget round (shared.failures, deadTargets) target).2
        { shared with failures := (probeTarget round (shared.failures, deadTargets) target).1 }
      exact ⟨fuel + 1, removals, runs⟩

/-- The steps of a round that runs alone are `check_routes`. -/
theorem alone_list (round : HealthRound) (shared : Monitored) :
    ∃ fuel removals, healthProgram.alone fuel shared (.list round) =
      some { shared with
        router := (checkRoutes round shared.router shared.failures).1
        failures := (checkRoutes round shared.router shared.failures).2
        removals := removals } := by
  by_cases empty : listRoutes shared.router = []
  · refine ⟨1, shared.removals, ?_⟩
    simp [Program.alone, healthProgram, checkRoutes, empty]
  · obtain ⟨fuel, removals, runs⟩ := alone_probe round
      ⟨groupTargets round.routeOrder shared.router, shared.updates.length⟩
      (roundTargets round (groupTargets round.routeOrder shared.router)) [] shared
    refine ⟨fuel + 1, removals, ?_⟩
    rw [Program.alone]
    simpa [healthProgram, checkRoutes, empty] using runs

/-! ## Registrations since a snapshot -/

/-- The registrations since a snapshot, newest first. -/
def updatesSince (shared : Monitored) (snapshot : Snapshot) : List (Text × ProfileRoute) :=
  shared.updates.take (shared.updates.length - snapshot.since)

/-- What a round still knows of an email when the table has a route for it: its last registration
since the snapshot, or else the target it was grouped under. -/
def KnownRoute (shared : Monitored) (snapshot : Snapshot) (target email : Text)
    (route : ProfileRoute) : Prop :=
  match (updatesSince shared snapshot).lookup email with
  | some registered => registered = route
  | none => routeTargetKey route = target

/-- A snapshot was taken in this run, and what has changed since is told by the registrations. -/
structure SnapshotInvariant (shared : Monitored) (snapshot : Snapshot) : Prop where
  /-- The registrations before the snapshot are among those so far. -/
  since : snapshot.since ≤ shared.updates.length
  /-- The emails of each group that still have a route. -/
  grouped : snapshot.groups.All fun target emails => ∀ email ∈ emails, ∀ route,
    shared.router.routes.lookup email = some route → KnownRoute shared snapshot target email route

variable {fromStr : Text → Option (HashMap Text Text)} {regex : RegexCrate}
  {shared after : Monitored} {snapshot : Snapshot} {others threads threads' : List HealthPoint}
  {point : HealthPoint}

theorem updatesSince_cons (since : snapshot.since ≤ shared.updates.length) (email : Text)
    (route : ProfileRoute) :
    updatesSince { shared with updates := (email, route) :: shared.updates } snapshot =
      (email, route) :: updatesSince shared snapshot := by
  have later : shared.updates.length + 1 - snapshot.since =
      shared.updates.length - snapshot.since + 1 := by omega
  simp [updatesSince, later]

theorem snapshotInvariant_list (order : IterationOrder Text ProfileRoute)
    (keyed : Keyed shared.router.routes) :
    SnapshotInvariant shared ⟨groupTargets order shared.router, shared.updates.length⟩ := by
  refine ⟨Nat.le_refl _, fun target emails found email member route current => ?_⟩
  obtain ⟨listed, registered, same⟩ := groupTargets_all order keyed target emails found email member
  obtain rfl := Option.some.inj (registered.symm.trans current)
  simpa [KnownRoute, updatesSince] using same

/-- Removals leave less to know, and nothing else but a registration changes what is known. -/
theorem SnapshotInvariant.transfer (holds : SnapshotInvariant shared snapshot)
    (routes : ∀ email route, after.router.routes.lookup email = some route →
      shared.router.routes.lookup email = some route)
    (updates : after.updates = shared.updates) : SnapshotInvariant after snapshot := by
  refine ⟨updates ▸ holds.since, fun target emails found email member route current => ?_⟩
  have known := holds.grouped target emails found email member route (routes email route current)
  simpa [KnownRoute, updatesSince, updates] using known

theorem SnapshotInvariant.insertStep (holds : SnapshotInvariant shared snapshot) (email : Text)
    (route : ProfileRoute) :
    SnapshotInvariant { shared with
      router := { shared.router with routes := shared.router.routes.insert email route }
      updates := (email, route) :: shared.updates } snapshot := by
  refine ⟨Nat.le_succ_of_le holds.since, fun target emails found other member current known => ?_⟩
  have listed : updatesSince { shared with
      router := { shared.router with routes := shared.router.routes.insert email route }
      updates := (email, route) :: shared.updates } snapshot =
        (email, route) :: updatesSince shared snapshot := updatesSince_cons holds.since email route
  rw [KnownRoute, listed, List.lookup_cons]
  by_cases same : other = email
  · subst same
    simpa using known
  · have current_before : shared.router.routes.lookup other = some current := by
      rwa [AList.lookup_insert_ne same] at known
    rw [beq_false_of_ne same]
    exact holds.grouped target emails found other member current current_before

/-! ## The invariant of rounds among registrations -/

/-- The email is in the group of a target that the round found dead. -/
def FoundDead (snapshot : Snapshot) (deadTargets : List Text) (email : Text) : Prop :=
  ∃ target ∈ deadTargets, ∃ emails, snapshot.groups.lookup target = some emails ∧ email ∈ emails

/-- What a thread knows at each of its points. -/
def HealthPointInvariant (shared : Monitored) : HealthPoint → Prop
  | .probe _ snapshot _ _ => SnapshotInvariant shared snapshot
  | .remove snapshot deadTargets emails | .persist snapshot deadTargets emails =>
      SnapshotInvariant shared snapshot ∧ ∀ email ∈ emails, FoundDead snapshot deadTargets email
  | _ => True

/-- The thread is about to write the table to the file. -/
def HealthPoint.writesNext : HealthPoint → Bool
  | .persist _ _ _ | .write => true
  | _ => false

/-- What holds of the shared state and all threads, in any order of their steps. -/
structure HealthInvariant (shared : Monitored) (threads : List HealthPoint) : Prop where
  /-- Every route is kept under its own email. -/
  keyed : Keyed shared.router.routes
  /-- The last registration of an email is in the table, or has been removed. -/
  registered : ∀ email route, shared.updates.lookup email = some route →
    shared.router.routes.lookup email = some route ∨
      ∃ removal ∈ shared.removals, removal.email = email ∧ removal.removed = some route
  /-- The file holds the table once it has changed, or some thread is about to write it. -/
  file : (shared.updates = [] ∧ shared.removals = []) ∨
    shared.router.routesFile = some (renderRoutes shared.router.routes) ∨
    ∃ thread ∈ threads, thread.writesNext = true
  /-- The invariant of every thread. -/
  points : ∀ thread ∈ threads, HealthPointInvariant shared thread

theorem foundDead_deadEmails {deadTargets : List Text} {email : Text}
    (dead : email ∈ deadEmails snapshot.groups deadTargets) :
    FoundDead snapshot deadTargets email := by
  obtain ⟨target, found, member⟩ := List.mem_flatMap.mp dead
  cases group : snapshot.groups.lookup target with
  | none => simp [group] at member
  | some emails => exact ⟨target, found, emails, group, by simpa [group] using member⟩

theorem HealthPointInvariant.transfer (holds : HealthPointInvariant shared point)
    (routes : ∀ email route, after.router.routes.lookup email = some route →
      shared.router.routes.lookup email = some route)
    (updates : after.updates = shared.updates) : HealthPointInvariant after point := by
  cases point with
  | probe round snapshot targets deadTargets =>
      exact SnapshotInvariant.transfer holds routes updates
  | remove snapshot deadTargets emails | persist snapshot deadTargets emails =>
      exact ⟨SnapshotInvariant.transfer holds.1 routes updates, holds.2⟩
  | _ => trivial

theorem HealthPointInvariant.insertStep (holds : HealthPointInvariant shared point) (email : Text)
    (route : ProfileRoute) :
    HealthPointInvariant { shared with
      router := { shared.router with routes := shared.router.routes.insert email route }
      updates := (email, route) :: shared.updates } point := by
  cases point with
  | probe round snapshot targets deadTargets => exact SnapshotInvariant.insertStep holds email route
  | remove snapshot deadTargets emails | persist snapshot deadTargets emails =>
      exact ⟨SnapshotInvariant.insertStep holds.1 email route, holds.2⟩
  | _ => trivial

theorem HealthInvariant.reorder (same : threads.Perm threads')
    (invariant : HealthInvariant shared threads) : HealthInvariant shared threads' where
  keyed := invariant.keyed
  registered := invariant.registered
  file := invariant.file.imp_right (Or.imp_right fun ⟨thread, member, writes⟩ =>
    ⟨thread, same.mem_iff.mp member, writes⟩)
  points thread member := invariant.points thread (same.mem_iff.mpr member)

theorem HealthInvariant.begin (invariant : HealthInvariant shared others)
    (enters : healthProgram.entry point = true) : HealthInvariant shared (point :: others) where
  keyed := invariant.keyed
  registered := invariant.registered
  file := invariant.file.imp_right (Or.imp_right fun ⟨thread, member, writes⟩ =>
    ⟨thread, List.mem_cons_of_mem point member, writes⟩)
  points := by
    refine List.forall_mem_cons.mpr ⟨?_, invariant.points⟩
    cases point with
    | list round => trivial
    | insert email hostOrUrl port => trivial
    | _ => simp [healthProgram] at enters

theorem HealthInvariant.others_point (invariant : HealthInvariant shared (point :: others)) :
    ∀ thread ∈ others, HealthPointInvariant shared thread :=
  (List.forall_mem_cons.mp invariant.points).2

/-- A step that leaves the table and its history alone. -/
theorem HealthInvariant.moveOn {continuation : Option HealthPoint}
    (invariant : HealthInvariant shared (point :: others)) (router : after.router = shared.router)
    (updates : after.updates = shared.updates) (removals : after.removals = shared.removals)
    (silent : point.writesNext = false)
    (own_point : ∀ next, continuation = some next → HealthPointInvariant after next) :
    HealthInvariant after (continuation.toList ++ others) where
  keyed := router ▸ invariant.keyed
  registered := by
    rw [router, updates, removals]
    exact invariant.registered
  file := by
    rw [router, updates, removals]
    refine invariant.file.imp_right (Or.imp_right fun writer => ?_)
    obtain ⟨thread, other, writes⟩ :=
      ((List.exists_mem_cons_iff _ _ _).mp writer).resolve_left (by simp [silent])
    exact ⟨thread, List.mem_append_right _ other, writes⟩
  points := by
    intro thread member
    rcases List.mem_append.mp member with next | other
    · exact own_point thread (Option.mem_toList.mp next)
    · refine (invariant.others_point thread other).transfer ?_ updates
      exact fun email route found => router ▸ found

/-- A removal: the route that goes is noted, and the file will be written. -/
theorem HealthInvariant.removeStep {deadTargets emails : List Text} {email : Text}
    (invariant : HealthInvariant shared
      (.remove snapshot deadTargets (email :: emails) :: others)) :
    HealthInvariant { shared with
        router := { shared.router with routes := shared.router.routes.erase email }
        removals := ⟨email, shared.router.routes.lookup email, deadTargets⟩ :: shared.removals }
      (.persist snapshot deadTargets emails :: others) := by
  have fewer : ∀ other route, (shared.router.routes.erase email).lookup other = some route →
      shared.router.routes.lookup other = some route := by
    intro other route found
    by_cases same : other = email
    · subst same
      simp at found
    · rwa [AList.lookup_erase_ne same] at found
  obtain ⟨known, dead⟩ := invariant.points _ List.mem_cons_self
  constructor
  case keyed => exact invariant.keyed.erase email
  case registered =>
    intro other route registered
    rcases invariant.registered other route registered with kept | ⟨removal, member, removed⟩
    · by_cases same : other = email
      · subst same
        exact Or.inr ⟨_, List.mem_cons_self, rfl, kept⟩
      · exact Or.inl (by rwa [AList.lookup_erase_ne same])
    · exact Or.inr ⟨removal, List.mem_cons_of_mem _ member, removed⟩
  case file => exact Or.inr (Or.inr ⟨_, List.mem_cons_self, rfl⟩)
  case points =>
    refine List.forall_mem_cons.mpr ⟨⟨known.transfer fewer rfl, ?_⟩, ?_⟩
    · exact fun other member => dead other (List.mem_cons_of_mem email member)
    · exact fun thread member => (invariant.others_point thread member).transfer fewer rfl

/-- A registration: the route it brings is the last one of its email. -/
theorem HealthInvariant.insertStep {email hostOrUrl : Text} {port : UInt16}
    (invariant : HealthInvariant shared (.insert email hostOrUrl port :: others)) :
    HealthInvariant { shared with
        router := { shared.router with
          routes := shared.router.routes.insert email (routeOfRequest email hostOrUrl port) }
        updates := (email, routeOfRequest email hostOrUrl port) :: shared.updates }
      (.write :: others) := by
  constructor
  case keyed => exact invariant.keyed.insert (routeOfRequest_email email hostOrUrl port)
  case registered =>
    intro other route registered
    rw [List.lookup_cons] at registered
    by_cases same : other = email
    · subst same
      exact Or.inl (by simpa using registered)
    · rw [beq_false_of_ne same] at registered
      rw [AList.lookup_insert_ne same]
      exact invariant.registered other route registered
  case file => exact Or.inr (Or.inr ⟨_, List.mem_cons_self, rfl⟩)
  case points =>
    refine List.forall_mem_cons.mpr ⟨trivial, fun thread member => ?_⟩
    exact (invariant.others_point thread member).insertStep email _

/-- A write: the file holds the table. -/
theorem HealthInvariant.writeStep {continuation : Option HealthPoint}
    (invariant : HealthInvariant shared (point :: others))
    (own_point : ∀ next, continuation = some next → HealthPointInvariant shared next) :
    HealthInvariant { shared with router := writeCurrentRoutes .done shared.router }
      (continuation.toList ++ others) := by
  have same : (writeCurrentRoutes .done shared.router).routes = shared.router.routes := rfl
  constructor
  case keyed => exact invariant.keyed
  case registered => exact invariant.registered
  case file => exact Or.inr (Or.inl rfl)
  case points =>
    intro thread member
    rcases List.mem_append.mp member with next | other
    · refine (own_point thread (Option.mem_toList.mp next)).transfer ?_ rfl
      exact fun email route found => same ▸ found
    · refine (invariant.others_point thread other).transfer ?_ rfl
      exact fun email route found => same ▸ found

theorem healthInvariant_step {continuation : Option HealthPoint}
    (stepped : healthProgram.step shared point = some (after, continuation))
    (invariant : HealthInvariant shared (point :: others)) :
    HealthInvariant after (continuation.toList ++ others) := by
  have own := invariant.points point List.mem_cons_self
  cases point with
  | list round =>
      simp only [healthProgram] at stepped
      split at stepped
      · cases stepped
        exact invariant.moveOn rfl rfl rfl rfl fun next none => by simp at none
      · cases stepped
        refine invariant.moveOn rfl rfl rfl rfl fun next found => ?_
        obtain rfl := Option.some.inj found
        exact snapshotInvariant_list round.routeOrder invariant.keyed
  | probe round snapshot targets deadTargets =>
      cases targets with
      | nil =>
          cases stepped
          refine invariant.moveOn rfl rfl rfl rfl fun next found => ?_
          obtain rfl := Option.some.inj found
          exact ⟨own, fun email dead => foundDead_deadEmails dead⟩
      | cons target targets =>
          cases stepped
          refine invariant.moveOn rfl rfl rfl rfl fun next found => ?_
          obtain rfl := Option.some.inj found
          exact SnapshotInvariant.transfer own (fun email route found => found) rfl
  | remove snapshot deadTargets emails =>
      cases emails with
      | nil =>
          cases stepped
          exact invariant.moveOn rfl rfl rfl rfl fun next none => by simp at none
      | cons email emails =>
          cases stepped
          exact invariant.removeStep
  | persist snapshot deadTargets emails =>
      cases stepped
      refine invariant.writeStep fun next found => ?_
      obtain rfl := Option.some.inj found
      exact own
  | insert email hostOrUrl port =>
      cases stepped
      exact invariant.insertStep
  | write =>
      cases stepped
      exact invariant.writeStep fun next none => by simp at none

theorem keeps_healthInvariant : healthProgram.Keeps HealthInvariant fun _ _ => True := by
  refine ⟨fun _ _ _ same => HealthInvariant.reorder same, ?_, ?_⟩
  · exact fun pool point _ enters invariant => invariant.begin enters
  · exact fun pool index point shared continuation _ _ stepped invariant =>
      healthInvariant_step stepped invariant

/-! ## Removals of live routes -/

/-- Every route that was removed had a target that its round found dead. -/
def RemovedDead (removals : List Removal) : Prop :=
  ∀ removal ∈ removals, ∀ route, removal.removed = some route →
    routeTargetKey route ∈ removal.deadTargets

/-- The health check takes no live route away, in memory or on disk. -/
structure KeepsLive (pool : Pool Monitored HealthPoint) : Prop where
  /-- What a round removes leads, at that moment, to a target it found dead. -/
  removed : RemovedDead pool.shared.removals
  /-- An email that was registered with another target keeps its route. -/
  kept : ∀ email route, pool.shared.updates.lookup email = some route →
    (∀ removal ∈ pool.shared.removals, removal.email = email →
      routeTargetKey route ∉ removal.deadTargets) →
    pool.shared.router.routes.lookup email = some route
  /-- Once all calls have returned, the file holds what the table does. -/
  persisted : pool.Quiescent → (pool.shared.updates ≠ [] ∨ pool.shared.removals ≠ []) →
    pool.shared.router.routesFile = some (renderRoutes pool.shared.router.routes)

/-- A route that a round is about to remove has last been registered, if at all since the snapshot,
with a target that the round found dead. -/
def InTime (pool : Pool Monitored HealthPoint) : Action HealthPoint → Prop
  | .start _ => True
  | .advance index =>
      match pool.threads[index]? with
      | some (.remove snapshot deadTargets (email :: _)) =>
          pool.shared.router.routes.lookup email ≠ none →
            ∀ registered, (updatesSince pool.shared snapshot).lookup email = some registered →
              routeTargetKey registered ∈ deadTargets
      | _ => True

theorem keepsLive_iff {pool : Pool Monitored HealthPoint}
    (invariant : HealthInvariant pool.shared pool.threads) :
    KeepsLive pool ↔ RemovedDead pool.shared.removals := by
  constructor
  · exact KeepsLive.removed
  · intro removed
    refine ⟨removed, fun email route registered alive => ?_, fun quiescent changed => ?_⟩
    · rcases invariant.registered email route registered with kept | ⟨removal, member, same, gone⟩
      · exact kept
      · exact absurd (removed removal member route gone) (alive removal member same)
    · have no_threads : pool.threads = [] := quiescent
      rcases invariant.file with ⟨no_updates, no_removals⟩ | complete | ⟨thread, member, _⟩
      · exact absurd changed (by simp [no_updates, no_removals])
      · exact complete
      · simp [no_threads] at member

/-- At a removal, the guard is what the removal of a live route fails. -/
theorem removedDead_cons {deadTargets emails : List Text} {email : Text}
    (own : HealthPointInvariant shared (.remove snapshot deadTargets (email :: emails))) :
    RemovedDead (⟨email, shared.router.routes.lookup email, deadTargets⟩ :: shared.removals) ↔
      RemovedDead shared.removals ∧ (shared.router.routes.lookup email ≠ none →
        ∀ registered, (updatesSince shared snapshot).lookup email = some registered →
          routeTargetKey registered ∈ deadTargets) := by
  obtain ⟨known, dead⟩ := own
  obtain ⟨target, found, members, group, member⟩ := dead email List.mem_cons_self
  rw [RemovedDead, List.forall_mem_cons, and_comm]
  refine and_congr_right fun _ => ?_
  cases current : shared.router.routes.lookup email with
  | none => simp
  | some route =>
      have knows := known.grouped target members group email member route current
      rw [KnownRoute] at knows
      cases since : (updatesSince shared snapshot).lookup email with
      | none =>
          rw [since] at knows
          simp [show routeTargetKey route = target from knows, found]
      | some registered =>
          rw [since] at knows
          simp [show registered = route from knows]

theorem removedDead_step {pool after : Pool Monitored HealthPoint} {action : Action HealthPoint}
    (taken : healthProgram.next pool action = some after)
    (invariant : HealthInvariant pool.shared pool.threads) :
    RemovedDead after.shared.removals ↔
      RemovedDead pool.shared.removals ∧ InTime pool action := by
  cases action with
  | start point =>
      obtain ⟨_, rfl⟩ := (Program.next_start _).mp taken
      simp [InTime]
  | advance index =>
      obtain ⟨point, shared, continuation, stepped, _, shared_eq, _, found⟩ :=
        Program.next_advance _ taken
      have own := invariant.points point (List.mem_of_getElem? found)
      rw [shared_eq, InTime, found]
      cases point with
      | list round =>
          simp only [healthProgram] at stepped
          split at stepped <;> cases stepped <;> simp
      | probe round snapshot targets deadTargets =>
          cases targets <;> cases stepped <;> simp
      | remove snapshot deadTargets emails =>
          cases emails with
          | nil =>
              cases stepped
              simp
          | cons email emails =>
              cases stepped
              exact removedDead_cons own
      | _ =>
          cases stepped
          simp

/-- From every table that can be reached, and in every interleaving of health checks with
registrations, no live route is removed exactly when no route is registered elsewhere between the
snapshot of a round and its removal. -/
theorem keepsLive_run_iff (routesFile : Option Text) (run : List RouterCall)
    (failures : HashMap Text UInt32) {schedule : List (Action HealthPoint)}
    {final : Pool Monitored HealthPoint}
    (execution : healthProgram.run schedule
      ⟨⟨calls fromStr regex (ProfileRouter.new routesFile) run, failures, [], []⟩, []⟩ =
        some final) :
    KeepsLive final ↔ healthProgram.Obeys InTime schedule
      ⟨⟨calls fromStr regex (ProfileRouter.new routesFile) run, failures, [], []⟩, []⟩ := by
  have start : HealthInvariant
      ⟨calls fromStr regex (ProfileRouter.new routesFile) run, failures, [], []⟩ [] :=
    ⟨keyed_calls routesFile run, by simp, Or.inl ⟨rfl, rfl⟩, by simp⟩
  have preserved : ∀ pool action after, healthProgram.next pool action = some after →
      HealthInvariant pool.shared pool.threads → HealthInvariant after.shared after.threads :=
    fun pool action after taken invariant => keeps_healthInvariant.next trivial taken invariant
  have last := keeps_healthInvariant.run (Program.obeys_of_forall _ (fun _ _ _ => trivial) _)
    execution start
  rw [keepsLive_iff last]
  have exact_guard := healthProgram.run_iff_obeys preserved
    (fun pool action after taken invariant => removedDead_step taken invariant) execution start
  rw [exact_guard]
  exact and_iff_right (by simp [RemovedDead])

/-- A round that finds only `10.0.0.9` alive and removes at the first failure. -/
def onlyNineAlive : HealthRound where
  failThreshold := 1
  reachable host _ := host = "10.0.0.9".toList
  routeOrder := IterationOrder.inOrder Text ProfileRoute
  targetOrder := IterationOrder.inOrder Text (List Text)

/-- An agent moves to a live endpoint while its old one is probed, and loses its new route. -/
theorem moved_agent_removed : ∃ final : Pool Monitored HealthPoint,
    healthProgram.run
      [.start (.list onlyNineAlive), .advance 0,
        .start (.insert "bot@x.org".toList "10.0.0.9".toList 8645), .advance 0, .advance 1,
        .advance 1, .advance 0, .advance 0, .advance 0, .advance 0]
      ⟨⟨calls Toml.fragment RegexCrate.simple (ProfileRouter.new none)
        [.create .done "bot@x.org".toList "10.0.0.7".toList 8645], ∅, [], []⟩, []⟩ = some final ∧
    ¬ KeepsLive final := by
  refine ⟨_, rfl, fun keeps => ?_⟩
  have dead := keeps.removed _ List.mem_cons_self _ rfl
  revert dead
  decide

/-- The same round after the agent has moved. -/
theorem moved_agent_kept : ∃ final : Pool Monitored HealthPoint,
    healthProgram.run
      [.start (.insert "bot@x.org".toList "10.0.0.9".toList 8645), .start (.list onlyNineAlive),
        .advance 0, .advance 1, .advance 0, .advance 0, .advance 0, .advance 0]
      ⟨⟨calls Toml.fragment RegexCrate.simple (ProfileRouter.new none)
        [.create .done "bot@x.org".toList "10.0.0.7".toList 8645], ∅, [], []⟩, []⟩ = some final ∧
    (KeepsLive final ↔ healthProgram.Obeys InTime
      [.start (.insert "bot@x.org".toList "10.0.0.9".toList 8645), .start (.list onlyNineAlive),
        .advance 0, .advance 1, .advance 0, .advance 0, .advance 0, .advance 0]
      ⟨⟨calls Toml.fragment RegexCrate.simple (ProfileRouter.new none)
        [.create .done "bot@x.org".toList "10.0.0.7".toList 8645], ∅, [], []⟩, []⟩) :=
  ⟨_, rfl, keepsLive_run_iff none _ ∅ rfl⟩

end AimailBridge
