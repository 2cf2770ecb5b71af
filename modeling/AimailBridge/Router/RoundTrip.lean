import AimailBridge.Router.Persistence

/-!
# Route targets through the routes file

The writer shortens a target to `host:port` by a prefix test and a suffix test, and the reader
expands `host:port` to the default target.  The two are inverse exactly on the recoverable routes;
a path between the port and the default path is lost.
-/

namespace AimailBridge

open Foundation Text Toml ProfileRouter

variable {fromStr : Text → Option (HashMap Text Text)}

/-- The entry of a fresh registration in the written file, as the next load reads it. -/
theorem loadRoutesFile_updateRoute (standard : Standard fromStr) {router : ProfileRouter}
    (table_plain : router.routes.All PlainEntry) {email hostOrUrl : Text}
    (email_plain : Plain email) (host_plain : Plain hostOrUrl) (port : UInt16) :
    (loadRoutesFile fromStr
        (updateRoute .done router email hostOrUrl port).routesFile).lookup email =
      routeOfValue email (persistedValue (routeOfRequest email hostOrUrl port)) := by
  have plain := table_plain.insert (plainEntry_routeOfRequest email_plain host_plain port)
  rw [updateRoute_routesFile, loadRoutesFile_renderRoutes standard plain]
  simp

/-- The route registered last is read back from the written file with the same target, host and
port, and it is shortened there only from the default target. -/
def TargetSurvives (fromStr : Text → Option (HashMap Text Text)) (router : ProfileRouter)
    (email hostOrUrl : Text) (port : UInt16) : Prop :=
  let route := routeOfRequest email hostOrUrl port
  let written := (updateRoute .done router email hostOrUrl port).routesFile
  (∃ read, (loadRoutesFile fromStr written).lookup email = some read ∧
    read.targetUrl = route.targetUrl ∧ read.host = route.host ∧ read.port = route.port) ∧
  (persistedValue route = hostColonPort route.host route.port →
    route.targetUrl = defaultTarget route.host route.port)

/-- A target always has a slash, and the short form of a registered route has none. -/
theorem persistedValue_eq_short_iff (email hostOrUrl : Text) (port : UInt16) :
    persistedValue (routeOfRequest email hostOrUrl port) =
        hostColonPort (routeOfRequest email hostOrUrl port).host
          (routeOfRequest email hostOrUrl port).port ↔
      Shortened (routeOfRequest email hostOrUrl port) := by
  rw [persistedValue]
  split
  · next short => exact iff_of_true rfl short
  · next full =>
      refine iff_of_false (fun same => ?_) full
      have slash : '/' ∈ (routeOfRequest email hostOrUrl port).targetUrl := by
        rw [routeOfRequest_of_not_shortened full]
        exact slash_mem_targetUrl_fromUrl email hostOrUrl
      rw [same] at slash
      exact slash_not_mem_hostColonPort (slash_not_mem_host email hostOrUrl port) _ slash

/-- A registered target survives the routes file exactly when its route is recoverable: a target
that starts with `http://host:port` and ends with the default path has nothing in between, and its
host is readable. -/
theorem targetSurvives_iff (standard : Standard fromStr) {router : ProfileRouter}
    (table_plain : router.routes.All PlainEntry) {email hostOrUrl : Text}
    (email_plain : Plain email) (host_plain : Plain hostOrUrl) (port : UInt16) :
    TargetSurvives fromStr router email hostOrUrl port ↔
      Recoverable (routeOfRequest email hostOrUrl port) := by
  have reads := loadRoutesFile_updateRoute standard table_plain email_plain host_plain port
  have short_iff := persistedValue_eq_short_iff email hostOrUrl port
  simp only [TargetSurvives, reads, short_iff]
  constructor
  · intro survives
    obtain ⟨⟨read, found, target, _⟩, _⟩ := survives
    exact recoverable_of_targetUrl (by rw [found, Option.map_some, target])
  · intro recoverable
    have read := routeOfValue_persistedValue recoverable
    exact ⟨⟨_, read, rfl, rfl, rfl⟩, fun short => (recoverable_iff.mp recoverable short).1⟩

/-- The path before the default path is lost on the way through the file. -/
theorem target_lost : ¬ TargetSurvives Toml.fragment (ProfileRouter.new none) "bot@x.org".toList
    "http://agent.local:9000/v2/webhooks/amail-inbound".toList 8645 := by
  intro survives
  obtain ⟨⟨read, found, target, _⟩, _⟩ := survives
  rw [loadRoutesFile_updateRoute fragment_standard (HashMap.all_empty PlainEntry) (by decide)
    (by decide)] at found
  have shortened : routeOfValue "bot@x.org".toList (persistedValue (routeOfRequest
      "bot@x.org".toList "http://agent.local:9000/v2/webhooks/amail-inbound".toList 8645)) =
        some (ProfileRoute.new "bot@x.org".toList "agent.local".toList 9000) := by
    decide
  rw [shortened, Option.some.injEq] at found
  subst found
  exact absurd target (by decide)

/-- A target whose path is not the default one survives. -/
theorem target_survives : TargetSurvives Toml.fragment (ProfileRouter.new none) "bot@x.org".toList
    "https://agent.local:9000/hook".toList 8645 :=
  (targetSurvives_iff fragment_standard (HashMap.all_empty PlainEntry) (by decide) (by decide)
    8645).mpr (recoverable_iff.mpr fun short => absurd short (by decide))

end AimailBridge
