import AimailBridge.Foundation.Interleaving
import AimailBridge.Router.Reload

/-!
# Registrations among reloads

A registration inserts under the write lock and writes the file under the read lock; a load reads
the file with no lock held and replaces the tables later.  A load that installs a table read
before a registration was written loses it; as long as no registration and no load overlap in that
way, none is lost.
-/

namespace AimailBridge

open Foundation Text Toml ProfileRouter

/-- A router with the route that was registered last for each email. -/
structure Registrations where
  /-- The router. -/
  router : ProfileRouter
  /-- The last registration of each email. -/
  registered : HashMap Text ProfileRoute

/-- The points between the atomic steps of registrations and loads. -/
inductive RegistrationPoint
  /-- Before the insertion of a registered route. -/
  | insert (email hostOrUrl : Text) (port : UInt16)
  /-- Before the file is written. -/
  | write
  /-- Before the file is read. -/
  | read (order : IterationOrder Text ProfileRoute)
  /-- Before the tables are replaced by what was read. -/
  | install (order : IterationOrder Text ProfileRoute) (overrides : HashMap Text ProfileRoute)

/-- The lock sections and file accesses of `update_route` and `load_from_file`. -/
def registrationProgram (fromStr : Text → Option (HashMap Text Text)) (regex : RegexCrate) :
    Program Registrations RegistrationPoint where
  entry
    | .insert _ _ _ | .read _ => true
    | .write | .install _ _ => false
  step shared
    | .insert email hostOrUrl port =>
        some ({
          router := { shared.router with
            routes := shared.router.routes.insert email (routeOfRequest email hostOrUrl port) }
          registered := shared.registered.insert email (routeOfRequest email hostOrUrl port) },
          some .write)
    | .write => some ({ shared with router := writeCurrentRoutes .done shared.router }, none)
    | .read order =>
        some ({ shared with router := { shared.router with writingRoutes := false } },
          some (.install order (loadRoutesFile fromStr shared.router.routesFile)))
    | .install order overrides =>
        some ({ shared with router := installRoutes regex order overrides shared.router }, none)

variable {fromStr : Text → Option (HashMap Text Text)} {regex : RegexCrate}

/-- The steps of a registration that runs alone are `update_route`. -/
theorem alone_insert (shared : Registrations) (email hostOrUrl : Text) (port : UInt16) :
    (registrationProgram fromStr regex).alone 2 shared (.insert email hostOrUrl port) =
      some { router := updateRoute .done shared.router email hostOrUrl port
             registered := shared.registered.insert email (routeOfRequest email hostOrUrl port) } :=
  rfl

/-- The steps of a load that runs alone are `load_from_file`. -/
theorem alone_read (shared : Registrations) (order : IterationOrder Text ProfileRoute) :
    (registrationProgram fromStr regex).alone 2 shared (.read order) =
      some { shared with router := loadFromFile fromStr regex order shared.router } :=
  rfl

/-- Memory and file contain the last registration of every email. -/
def RegistrationsKept (fromStr : Text → Option (HashMap Text Text)) (shared : Registrations) :
    Prop :=
  shared.registered.Submap shared.router.routes ∧
    shared.registered.Submap (loadRoutesFile fromStr shared.router.routesFile)

/-- The step does not insert a route that a load in progress has read the file without, and does not
read a file that a registration in progress is still to write. -/
def NoOverlap (pool : Pool Registrations RegistrationPoint) : Action RegistrationPoint → Prop
  | .start _ => True
  | .advance index =>
      (∀ email hostOrUrl port, pool.threads[index]? = some (.insert email hostOrUrl port) →
        ∀ order overrides, .install order overrides ∈ pool.others index →
          overrides.lookup email = some (routeOfRequest email hostOrUrl port)) ∧
      (∀ order, pool.threads[index]? = some (.read order) → .write ∉ pool.others index)

/-- An entry whose line is read back as the same route. -/
def Lossless (email : Text) (route : ProfileRoute) : Prop :=
  PlainEntry email route ∧ Recoverable route

/-- The exact entries of a table are read back from the file. -/
def LosslessEntries (routes : HashMap Text ProfileRoute) : Prop :=
  routes.All fun email route => isRegexPattern email = false → Lossless email route

/-- The action registers no route that the file would not give back. -/
def RegistersLossless : Action RegistrationPoint → Prop
  | .start (.insert email hostOrUrl port) =>
      isRegexPattern email = false ∧ Lossless email (routeOfRequest email hostOrUrl port)
  | _ => True

/-- An exact entry in memory that the file gives back. -/
def Backed (email : Text) (route : ProfileRoute) : Prop :=
  isRegexPattern email = false ∧ Lossless email route ∧ Registrable email route

/-- A table of such entries is read back from its file entry for entry. -/
theorem loadRoutesFile_backed (standard : Standard fromStr) {routes : HashMap Text ProfileRoute}
    (backed : routes.All Backed) (email : Text) :
    (loadRoutesFile fromStr (some (renderRoutes routes))).lookup email = routes.lookup email := by
  rw [loadRoutesFile_renderRoutes standard (backed.imp fun _ _ entry => entry.2.1.1)]
  cases found : routes.lookup email with
  | none => rfl
  | some route =>
      obtain ⟨_, ⟨_, recoverable⟩, hostOrUrl, port, rfl⟩ := backed email route found
      exact routeOfValue_persistedValue recoverable

/-! ## The invariant -/

/-- What holds of the router, its file and the operations in progress. -/
structure Consistent (fromStr : Text → Option (HashMap Text Text)) (shared : Registrations)
    (threads : List RegistrationPoint) : Prop where
  /-- The exact routes are read back from the file. -/
  table : shared.router.routes.All Backed
  /-- Registered emails are exact. -/
  exactEmails : shared.registered.All fun email _ => isRegexPattern email = false
  /-- Memory contains all registrations. -/
  memory : shared.registered.Submap shared.router.routes
  /-- So does the file, or some operation is about to write it. -/
  file : shared.registered.Submap (loadRoutesFile fromStr shared.router.routesFile) ∨
    RegistrationPoint.write ∈ threads
  /-- The entries of the file are read back. -/
  fileEntries : LosslessEntries (loadRoutesFile fromStr shared.router.routesFile)
  /-- A load is about to install all registrations, in entries that are read back. -/
  overrides : ∀ order overrides, RegistrationPoint.install order overrides ∈ threads →
    shared.registered.Submap overrides ∧ LosslessEntries overrides ∧ overrides.All Registrable
  /-- The registrations about to be made are read back. -/
  requests : ∀ email hostOrUrl port, RegistrationPoint.insert email hostOrUrl port ∈ threads →
    isRegexPattern email = false ∧ Lossless email (routeOfRequest email hostOrUrl port)

variable {shared : Registrations} {others : List RegistrationPoint}

theorem Consistent.reorder {threads threads' : List RegistrationPoint}
    (same : threads.Perm threads') (consistent : Consistent fromStr shared threads) :
    Consistent fromStr shared threads' where
  table := consistent.table
  exactEmails := consistent.exactEmails
  memory := consistent.memory
  file := consistent.file.imp_right same.mem_iff.mp
  fileEntries := consistent.fileEntries
  overrides order overrides member := consistent.overrides order overrides (same.mem_iff.mpr member)
  requests email hostOrUrl port member :=
    consistent.requests email hostOrUrl port (same.mem_iff.mpr member)

theorem Consistent.begin {point : RegistrationPoint} (consistent : Consistent fromStr shared others)
    (enters : (registrationProgram fromStr regex).entry point = true)
    (lossless : RegistersLossless (.start point)) :
    Consistent fromStr shared (point :: others) where
  table := consistent.table
  exactEmails := consistent.exactEmails
  memory := consistent.memory
  file := consistent.file.imp_right (List.mem_cons_of_mem point)
  fileEntries := consistent.fileEntries
  overrides order overrides member := by
    rcases List.mem_cons.mp member with rfl | old
    · simp [registrationProgram] at enters
    · exact consistent.overrides order overrides old
  requests email hostOrUrl port member := by
    rcases List.mem_cons.mp member with rfl | old
    · exact lossless
    · exact consistent.requests email hostOrUrl port old

theorem consistent_insert {email hostOrUrl : Text} {port : UInt16}
    (consistent : Consistent fromStr shared (.insert email hostOrUrl port :: others))
    (known : ∀ order overrides, .install order overrides ∈ others →
      overrides.lookup email = some (routeOfRequest email hostOrUrl port)) :
    Consistent fromStr
      { router := { shared.router with
          routes := shared.router.routes.insert email (routeOfRequest email hostOrUrl port) }
        registered := shared.registered.insert email (routeOfRequest email hostOrUrl port) }
      (.write :: others) := by
  obtain ⟨exact_email, lossless⟩ := consistent.requests email hostOrUrl port List.mem_cons_self
  constructor
  case table => exact consistent.table.insert ⟨exact_email, lossless, hostOrUrl, port, rfl⟩
  case exactEmails => exact consistent.exactEmails.insert exact_email
  case memory => exact consistent.memory.insert email _
  case file => exact Or.inr List.mem_cons_self
  case fileEntries => exact consistent.fileEntries
  case overrides =>
    intro order overrides member
    have pending : .install order overrides ∈ others := by simpa using member
    obtain ⟨current, entries⟩ :=
      consistent.overrides order overrides (List.mem_cons_of_mem _ pending)
    exact ⟨HashMap.All.insert current (known order overrides pending), entries⟩
  case requests =>
    exact fun other url port' member =>
      consistent.requests other url port' (List.mem_cons_of_mem _ (by simpa using member))

theorem consistent_write (standard : Standard fromStr)
    (consistent : Consistent fromStr shared (.write :: others)) :
    Consistent fromStr { shared with router := writeCurrentRoutes .done shared.router } others := by
  have reads : ∀ email, (loadRoutesFile fromStr
      (writeCurrentRoutes .done shared.router).routesFile).lookup email =
        shared.router.routes.lookup email :=
    loadRoutesFile_backed standard consistent.table
  constructor
  case table => exact consistent.table
  case exactEmails => exact consistent.exactEmails
  case memory => exact consistent.memory
  case file =>
    exact Or.inl fun email route found => (reads email).trans (consistent.memory email route found)
  case fileEntries =>
    exact fun email route found _ =>
      (consistent.table email route ((reads email).symm.trans found)).2.1
  case overrides =>
    exact fun order overrides member =>
      consistent.overrides order overrides (List.mem_cons_of_mem _ member)
  case requests =>
    exact fun email hostOrUrl port member =>
      consistent.requests email hostOrUrl port (List.mem_cons_of_mem _ member)

theorem consistent_read {order : IterationOrder Text ProfileRoute}
    (consistent : Consistent fromStr shared (.read order :: others)) (settled : .write ∉ others) :
    Consistent fromStr { shared with router := { shared.router with writingRoutes := false } }
      (.install order (loadRoutesFile fromStr shared.router.routesFile) :: others) := by
  have current : shared.registered.Submap (loadRoutesFile fromStr shared.router.routesFile) := by
    simpa [settled] using consistent.file
  constructor
  case table => exact consistent.table
  case exactEmails => exact consistent.exactEmails
  case memory => exact consistent.memory
  case file => exact Or.inl current
  case fileEntries => exact consistent.fileEntries
  case overrides =>
    intro order' overrides member
    rcases List.mem_cons.mp member with same | old
    · obtain ⟨rfl, rfl⟩ := RegistrationPoint.install.inj same
      exact ⟨current, consistent.fileEntries, fun _ _ => registrable_of_loadRoutesFile⟩
    · exact consistent.overrides order' overrides (List.mem_cons_of_mem _ old)
  case requests =>
    exact fun email hostOrUrl port member =>
      consistent.requests email hostOrUrl port (List.mem_cons_of_mem _ (by simpa using member))

theorem consistent_install {order : IterationOrder Text ProfileRoute}
    {overrides : HashMap Text ProfileRoute}
    (consistent : Consistent fromStr shared (.install order overrides :: others)) :
    Consistent fromStr
      { shared with router := installRoutes regex order overrides shared.router } others := by
  obtain ⟨current, lossless, registrable⟩ :=
    consistent.overrides order overrides List.mem_cons_self
  have installed : ∀ email,
      (installRoutes regex order overrides shared.router).routes.lookup email =
        if isRegexPattern email then none else overrides.lookup email := by
    intro email
    rw [installRoutes_eq]
    exact lookup_exactRoutes email
  have same_file : (installRoutes regex order overrides shared.router).routesFile =
      shared.router.routesFile := by
    rw [installRoutes_eq]
  constructor
  case table =>
    intro email route found
    rw [installed] at found
    split at found
    · simp at found
    · next exact_email =>
        have exact_email : isRegexPattern email = false := by simpa using exact_email
        exact ⟨exact_email, lossless email route found exact_email, registrable email route found⟩
  case exactEmails => exact consistent.exactEmails
  case memory =>
    intro email route found
    have found_there := current email route found
    rw [installed, consistent.exactEmails email route found]
    exact found_there
  case file =>
    rw [same_file]
    exact consistent.file.imp_right fun member => by simpa using member
  case fileEntries =>
    rw [same_file]
    exact consistent.fileEntries
  case overrides =>
    exact fun order' overrides' member =>
      consistent.overrides order' overrides' (List.mem_cons_of_mem _ member)
  case requests =>
    exact fun email hostOrUrl port member =>
      consistent.requests email hostOrUrl port (List.mem_cons_of_mem _ member)

theorem consistent_new {routesFile : Option Text}
    (file_lossless : LosslessEntries (loadRoutesFile fromStr routesFile)) :
    Consistent fromStr ⟨ProfileRouter.new routesFile, ∅⟩ [] where
  table := HashMap.all_empty Backed
  exactEmails := HashMap.all_empty _
  memory := HashMap.all_empty _
  file := Or.inl (HashMap.all_empty _)
  fileEntries := file_lossless
  overrides order overrides member := by simp at member
  requests email hostOrUrl port member := by simp at member

/-- One step keeps the router consistent, unless it is the second half of an overlap. -/
theorem consistent_step (standard : Standard fromStr) {point : RegistrationPoint}
    {after : Registrations} {continuation : Option RegistrationPoint}
    (known : ∀ email hostOrUrl port, point = .insert email hostOrUrl port →
      ∀ order overrides, .install order overrides ∈ others →
        overrides.lookup email = some (routeOfRequest email hostOrUrl port))
    (settled : ∀ order, point = .read order → .write ∉ others)
    (stepped : (registrationProgram fromStr regex).step shared point = some (after, continuation))
    (consistent : Consistent fromStr shared (point :: others)) :
    Consistent fromStr after (continuation.toList ++ others) := by
  cases point with
  | insert email hostOrUrl port =>
      cases stepped
      exact consistent_insert consistent (known email hostOrUrl port rfl)
  | write =>
      cases stepped
      exact consistent_write standard consistent
  | read order =>
      cases stepped
      exact consistent_read consistent (settled order rfl)
  | install order overrides =>
      cases stepped
      exact consistent_install consistent

/-- When no registration inserts under a load that has read the file without it, and no load reads
the file before a registration has written it, then in every quiescent state memory and file
contain the last registration of every email. -/
theorem registrationsKept_run (standard : Standard fromStr) {routesFile : Option Text}
    {schedule : List (Action RegistrationPoint)} {final : Pool Registrations RegistrationPoint}
    (file_lossless : LosslessEntries (loadRoutesFile fromStr routesFile))
    (lossless : ∀ action ∈ schedule, RegistersLossless action)
    (apart : (registrationProgram fromStr regex).Obeys NoOverlap schedule
      ⟨⟨ProfileRouter.new routesFile, ∅⟩, []⟩)
    (execution : (registrationProgram fromStr regex).run schedule
      ⟨⟨ProfileRouter.new routesFile, ∅⟩, []⟩ = some final)
    (quiescent : final.Quiescent) :
    RegistrationsKept fromStr final.shared := by
  have obeys := Program.obeys_and _ (fun _ action => RegistersLossless action) apart
    fun _ => lossless
  have keeps : (registrationProgram fromStr regex).Keeps (Consistent fromStr)
      fun pool action => NoOverlap pool action ∧ RegistersLossless action := by
    refine ⟨fun _ _ _ same => Consistent.reorder same, ?_, ?_⟩
    · intro pool point guarded enters consistent
      exact consistent.begin enters guarded.2
    · intro pool index point shared continuation guarded found stepped consistent
      refine consistent_step standard ?_ ?_ stepped consistent
      · exact fun email hostOrUrl port same => guarded.1.1 email hostOrUrl port (same ▸ found)
      · exact fun order same => guarded.1.2 order (same ▸ found)
  have consistent := keeps.run obeys execution (consistent_new file_lossless)
  have no_threads : final.threads = [] := quiescent
  refine ⟨consistent.memory, ?_⟩
  simpa [no_threads] using consistent.file

/-- A router whose file serves one address. -/
def servingRouter : ProfileRouter :=
  ProfileRouter.new (some "\"bot@x.org\" = \"10.0.0.7:8645\"".toList)

/-- A second load that reads the file before a registration and installs it afterwards takes the
registered address out of service. -/
theorem registration_lost : ∃ final : Pool Registrations RegistrationPoint,
    (registrationProgram Toml.fragment RegexCrate.simple).run
      [.start (.read (.inOrder _ _)), .advance 0, .advance 0,
        .start (.read (.inOrder _ _)), .advance 0,
        .start (.insert "new@x.org".toList "10.0.0.8".toList 8645), .advance 1, .advance 1,
        .advance 0]
      ⟨⟨servingRouter, ∅⟩, []⟩ = some final ∧
    final.Quiescent ∧ ¬ RegistrationsKept Toml.fragment final.shared := by
  refine ⟨_, rfl, rfl, fun kept => ?_⟩
  have lost := kept.1 "new@x.org".toList
    (ProfileRoute.new "new@x.org".toList "10.0.0.8".toList 8645) (by decide)
  exact absurd lost (by decide)

/-- A step of the only operation in progress overlaps with nothing. -/
theorem noOverlap_alone {pool : Pool Registrations RegistrationPoint} {index : Nat}
    (single : pool.others index = []) : NoOverlap pool (.advance index) := by
  simp [NoOverlap, single]

/-- A load that reads the file after the registration has written it keeps the registration. -/
theorem registration_kept : RegistrationsKept Toml.fragment
    { router := loadFromFile Toml.fragment RegexCrate.simple (.inOrder _ _)
        (updateRoute .done (ProfileRouter.new none) "bot@x.org".toList "10.0.0.7".toList 8645)
      registered := (∅ : HashMap Text ProfileRoute).insert "bot@x.org".toList
        (routeOfRequest "bot@x.org".toList "10.0.0.7".toList 8645) } := by
  refine @registrationsKept_run Toml.fragment RegexCrate.simple fragment_standard none
    [.start (.insert "bot@x.org".toList "10.0.0.7".toList 8645), .advance 0, .advance 0,
      .start (.read (.inOrder _ _)), .advance 0, .advance 0] ⟨⟨_, _⟩, []⟩
    (HashMap.all_empty _) ?_ ?_ rfl rfl
  · intro action member
    simp only [List.mem_cons, List.not_mem_nil, or_false] at member
    rcases member with rfl | rfl | rfl | rfl | rfl | rfl
    · exact ⟨by decide, by decide, recoverable_new (by decide) (by decide) _ _⟩
    all_goals trivial
  · refine Program.obeys_cons _ rfl trivial ?_
    refine Program.obeys_cons _ rfl (noOverlap_alone rfl) ?_
    refine Program.obeys_cons _ rfl (noOverlap_alone rfl) ?_
    refine Program.obeys_cons _ rfl trivial ?_
    refine Program.obeys_cons _ rfl (noOverlap_alone rfl) ?_
    exact Program.obeys_cons _ rfl (noOverlap_alone rfl) trivial

end AimailBridge
