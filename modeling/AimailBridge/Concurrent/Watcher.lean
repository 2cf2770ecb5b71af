import AimailBridge.Foundation.Interleaving
import AimailBridge.Router.Table

/-!
# The watcher and the writing flag

A write sets the flag, truncates and fills the file under the read lock, and clears the flag; the
watcher tests the flag, and its reload clears it and reads the file.  The flag is one boolean for
all writers, tested before the read and cleared by every reload.  It keeps reloads from reading a
half-written file only while nobody clears it for another writer and no writer truncates under a
reload that has passed its test.
-/

namespace AimailBridge

open Foundation Text ProfileRouter

/-- A router with its read locks, the complete versions of its file and the tables that reloads have
installed. -/
structure Watched where
  /-- The router. -/
  router : ProfileRouter
  /-- How many writers hold the read lock. -/
  readers : Nat
  /-- The complete versions of the file. -/
  versions : List (Option Text)
  /-- The tables that reloads have installed. -/
  installed : List (HashMap Text ProfileRoute)

/-- The points between the atomic steps of API writes and watcher reloads. -/
inductive WatchPoint
  /-- Before a route is inserted under the write lock. -/
  | insert (email hostOrUrl : Text) (port : UInt16)
  /-- Before a route is removed under the write lock. -/
  | remove (email : Text)
  /-- Before the flag is set. -/
  | setFlag
  /-- Before the read lock is taken and the text made. -/
  | render
  /-- Before the file is truncated. -/
  | truncate (out : Text)
  /-- Before the contents are written. -/
  | write (out : Text)
  /-- Before the flag is cleared and the read lock released. -/
  | clearFlag
  /-- Before the watcher tests the flag. -/
  | test (order : IterationOrder Text ProfileRoute)
  /-- Before a reload clears the flag. -/
  | clear (order : IterationOrder Text ProfileRoute)
  /-- Before a reload reads the file. -/
  | read (order : IterationOrder Text ProfileRoute)
  /-- Before a reload replaces the tables under the write lock. -/
  | install (order : IterationOrder Text ProfileRoute) (content : Option Text)

/-- What a write at the start of a file leaves of its former contents. -/
def overlay (out : Text) (former : Option Text) : Text :=
  out ++ (former.getD []).drop out.length

/-- The lock sections, flag accesses and file accesses of API writes and watcher reloads. -/
def watchProgram (fromStr : Text → Option (HashMap Text Text)) (regex : RegexCrate) :
    Program Watched WatchPoint where
  entry
    | .insert _ _ _ | .remove _ | .test _ => true
    | _ => false
  step shared
    | .insert email hostOrUrl port =>
        if shared.readers = 0 then
          some ({ shared with router := { shared.router with
            routes := shared.router.routes.insert email (routeOfRequest email hostOrUrl port) } },
            some .setFlag)
        else none
    | .remove email =>
        if shared.readers = 0 then
          some ({ shared with router := { shared.router with
            routes := shared.router.routes.erase email } }, some .setFlag)
        else none
    | .setFlag =>
        some ({ shared with router := { shared.router with writingRoutes := true } }, some .render)
    | .render =>
        some ({ shared with readers := shared.readers + 1 },
          some (.truncate (renderRoutes shared.router.routes)))
    | .truncate out =>
        some ({ shared with router := { shared.router with routesFile := some [] } },
          some (.write out))
    | .write out =>
        some ({ shared with
          router := { shared.router with
            routesFile := some (overlay out shared.router.routesFile) }
          versions := some out :: shared.versions }, some .clearFlag)
    | .clearFlag =>
        some ({ shared with
          router := { shared.router with writingRoutes := false }
          readers := shared.readers - 1 }, none)
    | .test order =>
        if shared.router.writingRoutes then some (shared, none)
        else some (shared, some (.clear order))
    | .clear order =>
        some ({ shared with router := { shared.router with writingRoutes := false } },
          some (.read order))
    | .read order => some (shared, some (.install order shared.router.routesFile))
    | .install order content =>
        if shared.readers = 0 then
          some ({ shared with
            router := installRoutes regex order (loadRoutesFile fromStr content) shared.router
            installed := loadRoutesFile fromStr content :: shared.installed }, none)
        else none

namespace WatchPoint

/-- The thread holds the read lock. -/
def holdsLock : WatchPoint → Bool
  | .truncate _ | .write _ | .clearFlag => true
  | _ => false

/-- The thread has set the flag and not finished its write. -/
def writing : WatchPoint → Bool
  | .render | .truncate _ | .write _ => true
  | _ => false

/-- The thread has truncated the file and not finished its write. -/
def midWrite : WatchPoint → Bool
  | .write _ => true
  | _ => false

/-- The thread has passed the test of the flag and not read the file. -/
def reloading : WatchPoint → Bool
  | .clear _ | .read _ => true
  | _ => false

/-- The next step of the thread truncates the file. -/
def truncates : WatchPoint → Bool
  | .truncate _ => true
  | _ => false

/-- The next step of the thread clears the flag. -/
def clears : WatchPoint → Bool
  | .clearFlag | .clear _ => true
  | _ => false

end WatchPoint

variable {fromStr : Text → Option (HashMap Text Text)} {regex : RegexCrate}

/-- The steps of a registration that runs alone are `update_route`. -/
theorem alone_watched_insert (router : ProfileRouter) (versions : List (Option Text))
    (installed : List (HashMap Text ProfileRoute)) (email hostOrUrl : Text) (port : UInt16) :
    ((watchProgram fromStr regex).alone 6 ⟨router, 0, versions, installed⟩
        (.insert email hostOrUrl port)).map Watched.router =
      some (updateRoute .done router email hostOrUrl port) := by
  simp [Program.alone, watchProgram, updateRoute, writeCurrentRoutes, overlay]

/-- The steps of a reload that runs alone are `load_from_file`, when the flag is clear. -/
theorem alone_test {shared : Watched} (unlocked : shared.readers = 0)
    (flag : shared.router.writingRoutes = false) (order : IterationOrder Text ProfileRoute) :
    ((watchProgram fromStr regex).alone 4 shared (.test order)).map Watched.router =
      some (loadFromFile fromStr regex order shared.router) := by
  simp [Program.alone, watchProgram, flag, unlocked, loadFromFile]

/-- Every table that a reload has installed is the parse of a complete version of the file. -/
def InstallsComplete (fromStr : Text → Option (HashMap Text Text)) (shared : Watched) : Prop :=
  ∀ table ∈ shared.installed, ∃ version ∈ shared.versions, table = loadRoutesFile fromStr version

/-- The step does not truncate the file under a reload that has passed its test, and does not clear
the flag for another writer. -/
def RespectsFlag (pool : Pool Watched WatchPoint) : Action WatchPoint → Prop
  | .start _ => True
  | .advance index =>
      ∀ point, pool.threads[index]? = some point →
        (point.truncates = true → ∀ other ∈ pool.others index, other.reloading = false) ∧
        (point.clears = true → ∀ other ∈ pool.others index, other.writing = false)

/-! ## The invariant -/

/-- What holds at the program point of one thread. -/
def PointInvariant (shared : Watched) : WatchPoint → Prop
  | .truncate out => out = renderRoutes shared.router.routes
  | .write out =>
      out = renderRoutes shared.router.routes ∧
        (shared.router.routesFile = some [] ∨ shared.router.routesFile = some out)
  | .install _ content => content ∈ shared.versions
  | _ => True

/-- What holds of the shared state and all threads as long as the flag is respected. -/
structure FlagProtects (fromStr : Text → Option (HashMap Text Text)) (shared : Watched)
    (threads : List WatchPoint) : Prop where
  /-- The read locks are counted. -/
  readers : shared.readers = threads.countP WatchPoint.holdsLock
  /-- The flag is set while a write is in progress. -/
  flag : ∀ thread ∈ threads, thread.writing = true → shared.router.writingRoutes = true
  /-- No write is in progress under a reload. -/
  exclusive : ∀ writer ∈ threads, writer.midWrite = true →
    ∀ thread ∈ threads, thread.reloading = false
  /-- The file is complete, or a write is in progress. -/
  file : shared.router.routesFile ∈ shared.versions ∨ ∃ writer ∈ threads, writer.midWrite = true
  /-- The invariant of every thread. -/
  points : ∀ thread ∈ threads, PointInvariant shared thread
  /-- The tables installed so far. -/
  installed : InstallsComplete fromStr shared

variable {shared after : Watched} {others threads threads' : List WatchPoint} {point : WatchPoint}

theorem FlagProtects.reorder (same : threads.Perm threads')
    (protects : FlagProtects fromStr shared threads) : FlagProtects fromStr shared threads' where
  readers := protects.readers.trans (same.countP_eq _)
  flag thread member := protects.flag thread (same.mem_iff.mpr member)
  exclusive writer member mid thread thread_member :=
    protects.exclusive writer (same.mem_iff.mpr member) mid thread (same.mem_iff.mpr thread_member)
  file := protects.file.imp_right fun ⟨writer, member, mid⟩ =>
    ⟨writer, same.mem_iff.mp member, mid⟩
  points thread member := protects.points thread (same.mem_iff.mpr member)
  installed := protects.installed

theorem FlagProtects.begin (protects : FlagProtects fromStr shared others)
    (enters : (watchProgram fromStr regex).entry point = true) :
    FlagProtects fromStr shared (point :: others) := by
  have fresh : point.holdsLock = false ∧ point.writing = false ∧ point.midWrite = false ∧
      point.reloading = false ∧ PointInvariant shared point := by
    cases point with
    | insert email hostOrUrl port | remove email | test order =>
        exact ⟨rfl, rfl, rfl, rfl, trivial⟩
    | _ => simp [watchProgram] at enters
  obtain ⟨unlocked, idle, not_mid, not_reloading, holds⟩ := fresh
  refine ⟨by simp [unlocked, protects.readers], ?_, ?_, ?_, ?_, protects.installed⟩
  · intro thread member writing
    rcases List.mem_cons.mp member with rfl | old
    · simp [idle] at writing
    · exact protects.flag thread old writing
  · intro writer member mid thread thread_member
    rcases List.mem_cons.mp member with rfl | old
    · simp [not_mid] at mid
    · rcases List.mem_cons.mp thread_member with rfl | thread_old
      · exact not_reloading
      · exact protects.exclusive writer old mid thread thread_old
  · exact protects.file.imp_right fun ⟨writer, member, mid⟩ =>
      ⟨writer, List.mem_cons_of_mem _ member, mid⟩
  · intro thread member
    rcases List.mem_cons.mp member with rfl | old
    · exact holds
    · exact protects.points thread old

theorem WatchPoint.not_midWrite_of_reloading (reloading : point.reloading = true) :
    point.midWrite = false := by
  cases point with
  | write out => simp [WatchPoint.reloading] at reloading
  | _ => rfl

theorem WatchPoint.not_midWrite_of_idle (idle : point.writing = false) :
    point.midWrite = false := by
  cases point with
  | write out => simp [WatchPoint.writing] at idle
  | _ => rfl

/-- What a step has to establish: the count of the locks, the flag, the file and the invariants of
its own next point and of the other threads. -/
theorem FlagProtects.step (continuation : Option WatchPoint)
    (protects : FlagProtects fromStr shared (point :: others))
    (readers : after.readers = (continuation.toList ++ others).countP WatchPoint.holdsLock)
    (flag : ∀ thread ∈ continuation.toList ++ others, thread.writing = true →
      after.router.writingRoutes = true)
    (own_write : ∀ next ∈ continuation, next.midWrite = true →
      ∀ thread ∈ others, thread.reloading = false)
    (own_reload : ∀ next ∈ continuation, next.reloading = true →
      ∀ thread ∈ others, thread.midWrite = false)
    (file : after.router.routesFile ∈ after.versions ∨
      ∃ writer ∈ continuation.toList ++ others, writer.midWrite = true)
    (own_point : ∀ next ∈ continuation, PointInvariant after next)
    (points : ∀ thread ∈ others, PointInvariant after thread)
    (installed : InstallsComplete fromStr after) :
    FlagProtects fromStr after (continuation.toList ++ others) := by
  refine ⟨readers, flag, ?_, file, ?_, installed⟩
  · intro writer member mid thread thread_member
    rcases List.mem_append.mp member with own | other <;>
      rcases List.mem_append.mp thread_member with thread_own | thread_other
    · obtain rfl : writer = thread :=
        Option.mem_unique (Option.mem_toList.mp own) (Option.mem_toList.mp thread_own)
      by_contra reloading
      simp [WatchPoint.not_midWrite_of_reloading (Bool.not_eq_false _ ▸ reloading)] at mid
    · exact own_write writer (Option.mem_toList.mp own) mid thread thread_other
    · by_contra reloading
      have idle := own_reload thread (Option.mem_toList.mp thread_own)
        (Bool.not_eq_false _ ▸ reloading) writer other
      simp [idle] at mid
    · exact protects.exclusive writer (List.mem_cons_of_mem _ other) mid thread
        (List.mem_cons_of_mem _ thread_other)
  · intro thread member
    rcases List.mem_append.mp member with own | other
    · exact own_point thread (Option.mem_toList.mp own)
    · exact points thread other

/-- The thread goes on to its next point. -/
theorem FlagProtects.moves {next : WatchPoint}
    (protects : FlagProtects fromStr shared (point :: others))
    (readers : after.readers = (next :: others).countP WatchPoint.holdsLock)
    (flag : ∀ thread ∈ next :: others, thread.writing = true → after.router.writingRoutes = true)
    (own_write : next.midWrite = true → ∀ thread ∈ others, thread.reloading = false)
    (own_reload : next.reloading = true → ∀ thread ∈ others, thread.midWrite = false)
    (file : after.router.routesFile ∈ after.versions ∨ next.midWrite = true ∨
      ∃ writer ∈ others, writer.midWrite = true)
    (own_point : PointInvariant after next)
    (points : ∀ thread ∈ others, PointInvariant after thread)
    (installed : InstallsComplete fromStr after) : FlagProtects fromStr after (next :: others) := by
  refine protects.step (some next) readers flag ?_ ?_ ?_ ?_ points installed
  · simpa using own_write
  · simpa using own_reload
  · simpa using file
  · simpa using own_point

/-- The thread returns. -/
theorem FlagProtects.returns (protects : FlagProtects fromStr shared (point :: others))
    (readers : after.readers = others.countP WatchPoint.holdsLock)
    (flag : ∀ thread ∈ others, thread.writing = true → after.router.writingRoutes = true)
    (file : after.router.routesFile ∈ after.versions ∨ ∃ writer ∈ others, writer.midWrite = true)
    (points : ∀ thread ∈ others, PointInvariant after thread)
    (installed : InstallsComplete fromStr after) : FlagProtects fromStr after others :=
  protects.step none readers flag (by simp) (by simp) file (by simp) points installed

theorem PointInvariant.transfer (routes : after.router.routes = shared.router.routes)
    (file : after.router.routesFile = shared.router.routesFile)
    (versions : shared.versions ⊆ after.versions) (holds : PointInvariant shared point) :
    PointInvariant after point := by
  cases point with
  | truncate out => exact holds.trans (by rw [routes])
  | write out =>
      obtain ⟨rendered, content⟩ := holds
      exact ⟨rendered.trans (by rw [routes]), by rwa [file]⟩
  | install order content => exact versions holds
  | _ => trivial

theorem PointInvariant.of_unlocked (unlocked : point.holdsLock = false)
    (versions : shared.versions ⊆ after.versions) (holds : PointInvariant shared point) :
    PointInvariant after point := by
  cases point with
  | truncate out => simp [WatchPoint.holdsLock] at unlocked
  | write out => simp [WatchPoint.holdsLock] at unlocked
  | install order content => exact versions holds
  | _ => trivial

/-- A truncation leaves every writer with a file that it can still complete. -/
theorem PointInvariant.truncated (holds : PointInvariant shared point) :
    PointInvariant { shared with router := { shared.router with routesFile := some [] } }
      point := by
  cases point with
  | write other => exact ⟨holds.1, Or.inl rfl⟩
  | _ => exact holds

/-- The writers write the same text, so the text of one is that of the others. -/
theorem PointInvariant.written {out : Text} (rendered : out = renderRoutes shared.router.routes)
    (holds : PointInvariant shared point) :
    PointInvariant { shared with
      router := { shared.router with routesFile := some out }
      versions := some out :: shared.versions } point := by
  cases point with
  | write other => exact ⟨holds.1, Or.inr (by rw [holds.1, rendered])⟩
  | install order content => exact List.mem_cons_of_mem _ holds
  | _ => exact holds

/-- What is written after a truncation is the whole file. -/
theorem PointInvariant.overlay {out : Text} (holds : PointInvariant shared (.write out)) :
    overlay out shared.router.routesFile = out := by
  rcases holds.2 with empty | full
  · simp [AimailBridge.overlay, empty]
  · simp [AimailBridge.overlay, full]

theorem FlagProtects.others_point (protects : FlagProtects fromStr shared (point :: others)) :
    ∀ thread ∈ others, PointInvariant shared thread :=
  fun thread member => protects.points thread (List.mem_cons_of_mem _ member)

theorem FlagProtects.others_flag (protects : FlagProtects fromStr shared (point :: others)) :
    ∀ thread ∈ others, thread.writing = true → shared.router.writingRoutes = true :=
  fun thread member => protects.flag thread (List.mem_cons_of_mem _ member)

/-- A thread that goes on to write has been writing. -/
theorem FlagProtects.moves_flag {next : WatchPoint}
    (protects : FlagProtects fromStr shared (point :: others))
    (own : next.writing = true → point.writing = true) :
    ∀ thread ∈ next :: others, thread.writing = true → shared.router.writingRoutes = true :=
  List.forall_mem_cons.mpr
    ⟨fun writing => protects.flag point List.mem_cons_self (own writing), protects.others_flag⟩

/-- No other thread is in the middle of a write under a reload. -/
theorem FlagProtects.others_not_midWrite
    (protects : FlagProtects fromStr shared (point :: others))
    (reloading : point.reloading = true) :
    ∀ thread ∈ others, thread.midWrite = false := by
  intro thread member
  by_contra mid
  have idle := protects.exclusive thread (List.mem_cons_of_mem _ member) (Bool.not_eq_false _ ▸ mid)
    point List.mem_cons_self
  simp [idle] at reloading

theorem FlagProtects.others_file (protects : FlagProtects fromStr shared (point :: others))
    (not_mid : point.midWrite = false) :
    shared.router.routesFile ∈ shared.versions ∨ ∃ writer ∈ others, writer.midWrite = true := by
  refine protects.file.imp_right fun mid_write => ?_
  exact ((List.exists_mem_cons_iff _ _ _).mp mid_write).resolve_left (by simp [not_mid])

/-- While nobody is counted, no thread holds the lock. -/
theorem WatchPoint.others_unlocked
    (readers : shared.readers = (point :: others).countP WatchPoint.holdsLock)
    (unlocked : shared.readers = 0) : ∀ thread ∈ others, thread.holdsLock = false := by
  intro thread member
  have none_locked := List.countP_eq_zero.mp (readers.symm.trans unlocked)
  simpa using none_locked thread (List.mem_cons_of_mem _ member)

/-! ## The steps -/

/-- A step that changes the flag at most, while no other writer relies on it. -/
theorem FlagProtects.flagStep (flag : Bool) {next : WatchPoint}
    (protects : FlagProtects fromStr shared (point :: others))
    (locks : next.holdsLock = point.holdsLock) (not_mid : point.midWrite = false)
    (next_not_mid : next.midWrite = false)
    (raised : ∀ thread ∈ next :: others, thread.writing = true → flag = true)
    (own_reload : next.reloading = true → ∀ thread ∈ others, thread.midWrite = false)
    (own_point : PointInvariant
      { shared with router := { shared.router with writingRoutes := flag } } next) :
    FlagProtects fromStr { shared with router := { shared.router with writingRoutes := flag } }
      (next :: others) := by
  refine protects.moves ?_ raised ?_ own_reload ?_ own_point ?_ protects.installed
  · simpa [List.countP_cons, locks] using protects.readers
  · intro mid
    simp [next_not_mid] at mid
  · exact (protects.others_file not_mid).imp_right Or.inr
  · exact fun thread member =>
      (protects.others_point thread member).transfer rfl rfl (List.Subset.refl _)

/-- A step under the write lock, which no writer can hold a read lock against. -/
theorem FlagProtects.writeLockStep (continuation : Option WatchPoint)
    (protects : FlagProtects fromStr shared (point :: others))
    (unlocked : shared.readers = 0) (not_mid : point.midWrite = false)
    (next : ∀ next ∈ continuation, next = .setFlag)
    (readers : after.readers = 0)
    (flag : after.router.writingRoutes = shared.router.writingRoutes)
    (file : after.router.routesFile = shared.router.routesFile)
    (versions : after.versions = shared.versions) (installed : InstallsComplete fromStr after) :
    FlagProtects fromStr after (continuation.toList ++ others) := by
  have free := WatchPoint.others_unlocked protects.readers unlocked
  have own : ∀ thread ∈ continuation.toList, thread = .setFlag :=
    fun thread member => next thread (Option.mem_toList.mp member)
  refine protects.step continuation ?_ ?_ ?_ ?_ ?_ ?_ ?_ installed
  · rw [readers, eq_comm, List.countP_eq_zero]
    intro thread member
    rcases List.mem_append.mp member with mine | other
    · simp [own thread mine, WatchPoint.holdsLock]
    · simp [free thread other]
  · intro thread member writing
    rcases List.mem_append.mp member with mine | other
    · simp [own thread mine, WatchPoint.writing] at writing
    · exact flag.trans (protects.others_flag thread other writing)
  · intro thread member mid
    simp [next thread member, WatchPoint.midWrite] at mid
  · intro thread member reloading
    simp [next thread member, WatchPoint.reloading] at reloading
  · rw [file, versions]
    rcases protects.others_file not_mid with complete | ⟨writer, member, mid⟩
    · exact Or.inl complete
    · exact Or.inr ⟨writer, List.mem_append_right _ member, mid⟩
  · intro thread member
    rw [next thread member]
    trivial
  · exact fun thread member =>
      (protects.others_point thread member).of_unlocked (free thread member)
        (versions ▸ List.Subset.refl _)

theorem FlagProtects.renderStep (protects : FlagProtects fromStr shared (.render :: others)) :
    FlagProtects fromStr { shared with readers := shared.readers + 1 }
      (.truncate (renderRoutes shared.router.routes) :: others) := by
  refine protects.moves ?_ (protects.moves_flag fun _ => rfl) (fun mid => nomatch mid)
    (fun reloading => nomatch reloading) ?_ rfl ?_ protects.installed
  · have count := protects.readers
    simp only [List.countP_cons, WatchPoint.holdsLock] at count ⊢
    simp [count]
  · exact (protects.others_file rfl).imp_right Or.inr
  · exact fun thread member =>
      (protects.others_point thread member).transfer rfl rfl (List.Subset.refl _)

theorem FlagProtects.truncateStep {out : Text}
    (protects : FlagProtects fromStr shared (.truncate out :: others))
    (respects : ∀ thread ∈ others, thread.reloading = false) :
    FlagProtects fromStr { shared with router := { shared.router with routesFile := some [] } }
      (.write out :: others) := by
  have rendered : out = renderRoutes shared.router.routes :=
    protects.points (.truncate out) List.mem_cons_self
  refine protects.moves ?_ (protects.moves_flag fun _ => rfl) (fun _ => respects)
    (fun reloading => nomatch reloading) (Or.inr (Or.inl rfl)) ⟨rendered, Or.inl rfl⟩ ?_
    protects.installed
  · simpa [List.countP_cons, WatchPoint.holdsLock] using protects.readers
  · exact fun thread member => (protects.others_point thread member).truncated

/-- All writers between their truncation and the end of their write hold the read lock on the same
table, so whichever finishes leaves a complete file. -/
theorem FlagProtects.writeStep {out : Text}
    (protects : FlagProtects fromStr shared (.write out :: others)) :
    FlagProtects fromStr { shared with
        router := { shared.router with routesFile := some (overlay out shared.router.routesFile) }
        versions := some out :: shared.versions }
      (.clearFlag :: others) := by
  have own : PointInvariant shared (.write out) :=
    protects.points (.write out) List.mem_cons_self
  rw [own.overlay]
  refine protects.moves ?_ (protects.moves_flag fun writing => nomatch writing)
    (fun mid => nomatch mid) (fun reloading => nomatch reloading) (Or.inl List.mem_cons_self)
    trivial ?_ ?_
  · simpa [List.countP_cons, WatchPoint.holdsLock] using protects.readers
  · exact fun thread member => (protects.others_point thread member).written own.1
  · intro table member
    obtain ⟨version, known, parsed⟩ := protects.installed table member
    exact ⟨version, List.mem_cons_of_mem _ known, parsed⟩

theorem FlagProtects.clearFlagStep
    (protects : FlagProtects fromStr shared (.clearFlag :: others))
    (respects : ∀ thread ∈ others, thread.writing = false) :
    FlagProtects fromStr { shared with
        router := { shared.router with writingRoutes := false }
        readers := shared.readers - 1 } others := by
  refine protects.returns ?_ ?_ (protects.others_file rfl) ?_ protects.installed
  · have count := protects.readers
    simp only [List.countP_cons, WatchPoint.holdsLock, if_true] at count
    simp [count]
  · intro thread member writing
    simp [respects thread member] at writing
  · exact fun thread member =>
      (protects.others_point thread member).transfer rfl rfl (List.Subset.refl _)

/-- A reload reads a complete version of the file. -/
theorem FlagProtects.read_complete {order : IterationOrder Text ProfileRoute}
    (protects : FlagProtects fromStr shared (.read order :: others)) :
    shared.router.routesFile ∈ shared.versions := by
  rcases protects.others_file rfl with complete | ⟨writer, member, mid⟩
  · exact complete
  · simp [protects.others_not_midWrite rfl writer member] at mid

/-- One step that respects the flag keeps it protecting the file. -/
theorem flagProtects_step {continuation : Option WatchPoint}
    (truncates : point.truncates = true → ∀ other ∈ others, other.reloading = false)
    (clears : point.clears = true → ∀ other ∈ others, other.writing = false)
    (stepped : (watchProgram fromStr regex).step shared point = some (after, continuation))
    (protects : FlagProtects fromStr shared (point :: others)) :
    FlagProtects fromStr after (continuation.toList ++ others) := by
  cases point with
  | insert email hostOrUrl port | remove email =>
      simp only [watchProgram, Option.ite_none_right_eq_some] at stepped
      obtain ⟨unlocked, ⟨⟩⟩ := stepped
      exact protects.writeLockStep (some .setFlag) unlocked rfl (by simp) unlocked rfl rfl rfl
        protects.installed
  | setFlag =>
      cases stepped
      exact protects.flagStep true rfl rfl rfl (fun _ _ _ => rfl)
        (fun reloading => nomatch reloading) trivial
  | render =>
      cases stepped
      exact protects.renderStep
  | truncate out =>
      cases stepped
      exact protects.truncateStep (truncates rfl)
  | write out =>
      cases stepped
      exact protects.writeStep
  | clearFlag =>
      cases stepped
      exact protects.clearFlagStep (clears rfl)
  | test order =>
      simp only [watchProgram] at stepped
      split at stepped
      · cases stepped
        exact protects.returns protects.readers protects.others_flag (protects.others_file rfl)
          protects.others_point protects.installed
      · next clear =>
          cases stepped
          have idle : ∀ thread ∈ others, thread.writing = false := by
            intro thread member
            by_contra writing
            exact clear (protects.others_flag thread member (Bool.not_eq_false _ ▸ writing))
          refine protects.flagStep shared.router.writingRoutes rfl rfl rfl
            (protects.moves_flag fun writing => nomatch writing) ?_ trivial
          exact fun _ thread member => WatchPoint.not_midWrite_of_idle (idle thread member)
  | clear order =>
      cases stepped
      refine protects.flagStep false rfl rfl rfl ?_ (fun _ => protects.others_not_midWrite rfl)
        trivial
      intro thread member writing
      rcases List.mem_cons.mp member with rfl | other
      · simp [WatchPoint.writing] at writing
      · simp [clears rfl thread other] at writing
  | read order =>
      cases stepped
      exact protects.flagStep shared.router.writingRoutes rfl rfl rfl
        (protects.moves_flag fun writing => nomatch writing) (fun reloading => nomatch reloading)
        protects.read_complete
  | install order content =>
      simp only [watchProgram, Option.ite_none_right_eq_some] at stepped
      obtain ⟨unlocked, ⟨⟩⟩ := stepped
      have known : content ∈ shared.versions :=
        protects.points (.install order content) List.mem_cons_self
      refine protects.writeLockStep none unlocked rfl (by simp) unlocked ?_ ?_ rfl ?_
      · rw [installRoutes_eq]
      · rw [installRoutes_eq]
      · intro table member
        rcases List.mem_cons.mp member with rfl | old
        · exact ⟨content, known, rfl⟩
        · exact protects.installed table old

/-- In every run that respects the flag, reloads install parses of complete versions of the file
only. -/
theorem installsComplete_run {router : ProfileRouter} {schedule : List (Action WatchPoint)}
    {final : Pool Watched WatchPoint}
    (respects : (watchProgram fromStr regex).Obeys RespectsFlag schedule
      ⟨⟨router, 0, [router.routesFile], []⟩, []⟩)
    (execution : (watchProgram fromStr regex).run schedule
      ⟨⟨router, 0, [router.routesFile], []⟩, []⟩ = some final) :
    InstallsComplete fromStr final.shared := by
  have keeps : (watchProgram fromStr regex).Keeps (FlagProtects fromStr) RespectsFlag := by
    refine ⟨fun _ _ _ same => FlagProtects.reorder same, ?_, ?_⟩
    · exact fun pool point _ enters protects => protects.begin enters
    · intro pool index point shared continuation guarded found stepped protects
      exact flagProtects_step (guarded point found).1 (guarded point found).2 stepped protects
  have start : FlagProtects fromStr ⟨router, 0, [router.routesFile], []⟩ [] :=
    ⟨rfl, by simp, by simp, Or.inl List.mem_cons_self, by simp,
      fun table member => by simp at member⟩
  exact (keeps.run respects execution start).installed

/-- A router whose file serves one address. -/
def servedRouter : ProfileRouter :=
  ProfileRouter.new (some "\"bot@x.org\" = \"10.0.0.7:8645\"".toList)

/-- A reload that has passed its test reads the file that a writer has just truncated, and
installs an empty table. -/
theorem truncated_installed : ∃ final : Pool Watched WatchPoint,
    (watchProgram Toml.fragment RegexCrate.simple).run
      [.start (.test (.inOrder _ _)), .advance 0,
        .start (.insert "new@x.org".toList "10.0.0.8".toList 8645), .advance 1, .advance 1,
        .advance 1, .advance 1, .advance 0, .advance 0, .advance 1, .advance 1, .advance 0]
      ⟨⟨servedRouter, 0, [servedRouter.routesFile], []⟩, []⟩ = some final ∧
    final.Quiescent ∧ ¬ InstallsComplete Toml.fragment final.shared := by
  refine ⟨_, rfl, rfl, fun complete => ?_⟩
  obtain ⟨version, known, parsed⟩ := complete ∅ List.mem_cons_self
  have served : ∀ version ∈ [some (renderRoutes ((∅ : HashMap Text ProfileRoute).insert
      "new@x.org".toList (routeOfRequest "new@x.org".toList "10.0.0.8".toList 8645))),
      servedRouter.routesFile], (loadRoutesFile Toml.fragment version).entries ≠ [] := by
    decide
  exact served version known (by rw [← parsed]; rfl)

theorem respectsFlag_alone {pool : Pool Watched WatchPoint} {index : Nat}
    (single : pool.others index = []) : RespectsFlag pool (.advance index) := by
  intro point _
  simp [single]

/-- A write and a reload after it, one step at a time, respect the flag. -/
theorem written_installed : ∃ final : Pool Watched WatchPoint,
    (watchProgram Toml.fragment RegexCrate.simple).run
      [.start (.insert "new@x.org".toList "10.0.0.8".toList 8645), .advance 0, .advance 0,
        .advance 0, .advance 0, .advance 0, .advance 0, .start (.test (.inOrder _ _)), .advance 0,
        .advance 0, .advance 0, .advance 0]
      ⟨⟨servedRouter, 0, [servedRouter.routesFile], []⟩, []⟩ = some final ∧
    InstallsComplete Toml.fragment final.shared := by
  obtain ⟨final, execution⟩ : ∃ final, (watchProgram Toml.fragment RegexCrate.simple).run
      [.start (.insert "new@x.org".toList "10.0.0.8".toList 8645), .advance 0, .advance 0,
        .advance 0, .advance 0, .advance 0, .advance 0, .start (.test (.inOrder _ _)), .advance 0,
        .advance 0, .advance 0, .advance 0]
      ⟨⟨servedRouter, 0, [servedRouter.routesFile], []⟩, []⟩ = some final := ⟨_, rfl⟩
  refine ⟨final, execution, installsComplete_run ?_ execution⟩
  refine Program.obeys_cons _ rfl trivial ?_
  iterate 6 refine Program.obeys_cons _ rfl (respectsFlag_alone rfl) ?_
  refine Program.obeys_cons _ rfl trivial ?_
  iterate 3 refine Program.obeys_cons _ rfl (respectsFlag_alone rfl) ?_
  exact Program.obeys_cons _ rfl (respectsFlag_alone rfl) trivial

end AimailBridge
