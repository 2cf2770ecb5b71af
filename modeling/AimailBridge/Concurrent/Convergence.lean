import AimailBridge.Concurrent.Watcher

/-!
# Convergence of concurrent registrations

Registrations and removals change the table one at a time and then write it, several at once under
the read lock.  All writers that hold the lock write the same text, and whoever changes the table
has its own write still ahead, so the last write leaves the last table.
-/

namespace AimailBridge

open Foundation Text ProfileRouter

/-- The action is one of registrations and removals, not of the watcher. -/
def Registers : Action WatchPoint → Prop
  | .start (.test _) => False
  | _ => True

namespace WatchPoint

/-- The thread is a registration or a removal. -/
def registering : WatchPoint → Bool
  | .test _ | .clear _ | .read _ | .install _ _ => false
  | _ => true

/-- The thread has its write still ahead. -/
def unwritten : WatchPoint → Bool
  | .insert _ _ _ | .remove _ | .setFlag | .render | .truncate _ | .write _ => true
  | _ => false

end WatchPoint

/-- What holds of the shared state and all threads once a registration has begun. -/
structure Converging (shared : Watched) (threads : List WatchPoint) : Prop where
  /-- The read locks are counted. -/
  readers : shared.readers = threads.countP WatchPoint.holdsLock
  /-- All threads are registrations and removals. -/
  registering : ∀ thread ∈ threads, thread.registering = true
  /-- The invariant of every thread. -/
  points : ∀ thread ∈ threads, PointInvariant shared thread
  /-- The file holds the table, or some thread has its write still ahead. -/
  file : shared.router.routesFile = some (renderRoutes shared.router.routes) ∨
    ∃ thread ∈ threads, thread.unwritten = true
  /-- The flag is clear, or some thread is still to clear it. -/
  flag : shared.router.writingRoutes = false ∨ threads ≠ []

variable {fromStr : Text → Option (HashMap Text Text)} {regex : RegexCrate}
  {shared after : Watched} {others threads threads' : List WatchPoint} {point : WatchPoint}

theorem Converging.reorder (same : threads.Perm threads') (converging : Converging shared threads) :
    Converging shared threads' where
  readers := converging.readers.trans (same.countP_eq _)
  registering thread member := converging.registering thread (same.mem_iff.mpr member)
  points thread member := converging.points thread (same.mem_iff.mpr member)
  file := converging.file.imp_right fun ⟨thread, member, ahead⟩ =>
    ⟨thread, same.mem_iff.mp member, ahead⟩
  flag := converging.flag.imp_right fun busy empty =>
    busy (List.Perm.eq_nil (empty ▸ same))

theorem registers_start (shared : Watched) (registers : Registers (.start point))
    (enters : (watchProgram fromStr regex).entry point = true) :
    point.registering = true ∧ point.unwritten = true ∧ point.holdsLock = false ∧
      PointInvariant shared point := by
  cases point with
  | insert email hostOrUrl port => exact ⟨rfl, rfl, rfl, trivial⟩
  | remove email => exact ⟨rfl, rfl, rfl, trivial⟩
  | test order => exact absurd registers id
  | _ => simp [watchProgram] at enters

theorem Converging.begin (converging : Converging shared others)
    (registers : Registers (.start point))
    (enters : (watchProgram fromStr regex).entry point = true) :
    Converging shared (point :: others) := by
  obtain ⟨registering, unwritten, unlocked, holds⟩ :=
    registers_start shared registers enters
  refine ⟨by simp [unlocked, converging.readers], ?_, ?_, ?_, Or.inr (List.cons_ne_nil _ _)⟩
  · exact List.forall_mem_cons.mpr ⟨registering, converging.registering⟩
  · exact List.forall_mem_cons.mpr ⟨holds, converging.points⟩
  · exact Or.inr ⟨point, List.mem_cons_self, unwritten⟩

/-- The first call to begin has its write ahead. -/
theorem converging_first {router : ProfileRouter} (versions : List (Option Text))
    (installed : List (HashMap Text ProfileRoute)) (registers : Registers (.start point))
    (enters : (watchProgram fromStr regex).entry point = true) :
    Converging ⟨router, 0, versions, installed⟩ [point] := by
  obtain ⟨registering, unwritten, unlocked, holds⟩ :=
    registers_start ⟨router, 0, versions, installed⟩ registers enters
  refine ⟨by simp [unlocked], ?_, ?_, ?_, Or.inr (List.cons_ne_nil _ _)⟩
  · exact List.forall_mem_singleton.mpr registering
  · exact List.forall_mem_singleton.mpr holds
  · exact Or.inr ⟨point, List.mem_cons_self, unwritten⟩

/-- A thread goes on to a point from which its write is still ahead. -/
theorem Converging.ahead {next : WatchPoint} (converging : Converging shared (point :: others))
    (readers : after.readers = (next :: others).countP WatchPoint.holdsLock)
    (registering : next.registering = true) (unwritten : next.unwritten = true)
    (own_point : PointInvariant after next)
    (points : ∀ thread ∈ others, PointInvariant after thread) :
    Converging after (next :: others) where
  readers := readers
  registering := List.forall_mem_cons.mpr
    ⟨registering, (List.forall_mem_cons.mp converging.registering).2⟩
  points := List.forall_mem_cons.mpr ⟨own_point, points⟩
  file := Or.inr ⟨next, List.mem_cons_self, unwritten⟩
  flag := Or.inr (List.cons_ne_nil _ _)

theorem Converging.others_point (converging : Converging shared (point :: others)) :
    ∀ thread ∈ others, PointInvariant shared thread :=
  (List.forall_mem_cons.mp converging.points).2

/-- A change of the table: no writer holds the lock, and the one that changes it has its write
ahead. -/
theorem Converging.changeStep {router : ProfileRouter}
    (converging : Converging shared (point :: others)) (unlocked : shared.readers = 0) :
    Converging { shared with router } (.setFlag :: others) := by
  have free := WatchPoint.others_unlocked converging.readers unlocked
  refine converging.ahead ?_ rfl rfl trivial fun thread member => ?_
  · have no_locks : others.countP WatchPoint.holdsLock = 0 :=
      List.countP_eq_zero.mpr fun thread member => by simp [free thread member]
    simp [unlocked, no_locks, WatchPoint.holdsLock]
  · have holds := converging.others_point thread member
    exact holds.of_unlocked (free thread member) (List.Subset.refl shared.versions)

/-- The file is complete when a writer has finished: its text is that of the table, which nobody
could change meanwhile. -/
theorem Converging.writeStep {out : Text} (converging : Converging shared (.write out :: others)) :
    Converging { shared with
        router := { shared.router with routesFile := some (overlay out shared.router.routesFile) }
        versions := some out :: shared.versions }
      (.clearFlag :: others) := by
  have own : PointInvariant shared (.write out) := converging.points _ List.mem_cons_self
  rw [own.overlay]
  constructor
  case readers => simpa [List.countP_cons, WatchPoint.holdsLock] using converging.readers
  case registering =>
    exact List.forall_mem_cons.mpr ⟨rfl, (List.forall_mem_cons.mp converging.registering).2⟩
  case points =>
    refine List.forall_mem_cons.mpr ⟨trivial, fun thread member => ?_⟩
    exact (converging.others_point thread member).written own.1
  case file => exact Or.inl (congrArg some own.1)
  case flag => exact Or.inr (List.cons_ne_nil _ _)

theorem Converging.clearFlagStep (converging : Converging shared (.clearFlag :: others)) :
    Converging { shared with
        router := { shared.router with writingRoutes := false }
        readers := shared.readers - 1 } others := by
  constructor
  case readers =>
    have count := converging.readers
    simp only [List.countP_cons, WatchPoint.holdsLock, if_true] at count
    simp [count]
  case registering => exact (List.forall_mem_cons.mp converging.registering).2
  case points =>
    exact fun thread member =>
      (converging.others_point thread member).transfer rfl rfl (List.Subset.refl _)
  case file =>
    refine converging.file.imp_right fun ahead => ?_
    exact ((List.exists_mem_cons_iff _ _ _).mp ahead).resolve_left Bool.false_ne_true
  case flag => exact Or.inl rfl

theorem converging_step {continuation : Option WatchPoint}
    (stepped : (watchProgram fromStr regex).step shared point = some (after, continuation))
    (converging : Converging shared (point :: others)) :
    Converging after (continuation.toList ++ others) := by
  have registering := converging.registering point List.mem_cons_self
  cases point with
  | insert email hostOrUrl port | remove email =>
      simp only [watchProgram, Option.ite_none_right_eq_some] at stepped
      obtain ⟨unlocked, ⟨⟩⟩ := stepped
      exact converging.changeStep unlocked
  | setFlag =>
      cases stepped
      refine converging.ahead ?_ rfl rfl trivial fun thread member => ?_
      · simpa [List.countP_cons, WatchPoint.holdsLock] using converging.readers
      · exact (converging.others_point thread member).transfer rfl rfl (List.Subset.refl _)
  | render =>
      cases stepped
      refine converging.ahead ?_ rfl rfl rfl fun thread member => ?_
      · have count := converging.readers
        simp only [List.countP_cons, WatchPoint.holdsLock] at count ⊢
        simp [count]
      · exact (converging.others_point thread member).transfer rfl rfl (List.Subset.refl _)
  | truncate out =>
      cases stepped
      have rendered : out = renderRoutes shared.router.routes :=
        converging.points (.truncate out) List.mem_cons_self
      refine converging.ahead ?_ rfl rfl ⟨rendered, Or.inl rfl⟩ fun thread member => ?_
      · simpa [List.countP_cons, WatchPoint.holdsLock] using converging.readers
      · exact (converging.others_point thread member).truncated
  | write out =>
      cases stepped
      exact converging.writeStep
  | clearFlag =>
      cases stepped
      exact converging.clearFlagStep
  | _ => simp [WatchPoint.registering] at registering

/-- Memory and file agree, and the watcher reloads the next edit from outside. -/
structure Converged (fromStr : Text → Option (HashMap Text Text)) (regex : RegexCrate)
    (shared : Watched) : Prop where
  /-- The file holds the serialization of the table. -/
  file : shared.router.routesFile = some (renderRoutes shared.router.routes)
  /-- The flag is clear. -/
  flag : shared.router.writingRoutes = false
  /-- A reload after an edit loads what was edited. -/
  reloads : ∀ content order,
    ((watchProgram fromStr regex).alone 4
        { shared with router := { shared.router with routesFile := content } }
        (.test order)).map Watched.router =
      some (loadFromFile fromStr regex order { shared.router with routesFile := content })

/-- Once all registrations and removals of any run have returned, the file holds the table, and the
flag does not keep later edits from being loaded. -/
theorem converged_run {router : ProfileRouter} {schedule : List (Action WatchPoint)}
    {final : Pool Watched WatchPoint} (called : schedule ≠ [])
    (registers : ∀ action ∈ schedule, Registers action)
    (execution : (watchProgram fromStr regex).run schedule
      ⟨⟨router, 0, [router.routesFile], []⟩, []⟩ = some final)
    (quiescent : final.Quiescent) : Converged fromStr regex final.shared := by
  obtain ⟨action, schedule, rfl⟩ := List.exists_cons_of_ne_nil called
  simp only [Program.run, Option.bind_eq_bind, Option.bind_eq_some_iff] at execution
  obtain ⟨begun, taken, execution⟩ := execution
  obtain ⟨first, later⟩ := List.forall_mem_cons.mp registers
  have start : Converging begun.shared begun.threads := by
    cases action with
    | advance index => simp [Program.next] at taken
    | start point =>
        obtain ⟨enters, rfl⟩ := (Program.next_start _).mp taken
        exact converging_first _ _ first enters
  have keeps : (watchProgram fromStr regex).Keeps Converging fun _ => Registers := by
    refine ⟨fun _ _ _ same => Converging.reorder same, ?_, ?_⟩
    · exact fun pool point registers enters converging => converging.begin registers enters
    · exact fun pool index point shared continuation _ _ stepped converging =>
        converging_step stepped converging
  have converging := keeps.run (Program.obeys_of_forall _ (fun _ => later) begun) execution start
  have no_threads : final.threads = [] := quiescent
  rw [no_threads] at converging
  have unlocked : final.shared.readers = 0 := converging.readers
  have flag : final.shared.router.writingRoutes = false := by simpa using converging.flag
  refine ⟨by simpa using converging.file, flag, fun content order => ?_⟩
  apply alone_test
  · exact unlocked
  · exact flag

/-- Two registrations that write at the same time. -/
theorem converged_two : ∃ final : Pool Watched WatchPoint,
    (watchProgram Toml.fragment RegexCrate.simple).run
      [.start (.insert "new@x.org".toList "10.0.0.8".toList 8645),
        .start (.remove "bot@x.org".toList), .advance 0, .advance 1, .advance 0, .advance 0,
        .advance 1, .advance 1, .advance 0, .advance 1, .advance 1, .advance 0, .advance 0,
        .advance 0]
      ⟨⟨servedRouter, 0, [servedRouter.routesFile], []⟩, []⟩ = some final ∧
    Converged Toml.fragment RegexCrate.simple final.shared := by
  refine ⟨_, rfl, @converged_run Toml.fragment RegexCrate.simple servedRouter
    [.start (.insert "new@x.org".toList "10.0.0.8".toList 8645),
      .start (.remove "bot@x.org".toList), .advance 0, .advance 1, .advance 0, .advance 0,
      .advance 1, .advance 1, .advance 0, .advance 1, .advance 1, .advance 0, .advance 0,
      .advance 0] ⟨_, []⟩ (List.cons_ne_nil _ _) ?_ rfl rfl⟩
  intro action member
  simp only [List.mem_cons, List.not_mem_nil, or_false] at member
  rcases member with rfl | rfl | rfl | rfl | rfl | rfl | rfl | rfl | rfl | rfl | rfl | rfl | rfl |
    rfl
  all_goals trivial

end AimailBridge
