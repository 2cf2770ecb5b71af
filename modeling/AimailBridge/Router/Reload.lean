import AimailBridge.Router.RoundTrip

/-!
# Reloads

A load replaces both tables by what the file gives.  An unreadable file gives nothing, so a failed
reload empties the router; and the file the bridge writes holds the exact routes only, so a reload
of it forgets every pattern.
-/

namespace AimailBridge

open Foundation Text Toml ProfileRouter

variable {fromStr : Text → Option (HashMap Text Text)} {regex : RegexCrate}
  {order reloadOrder : IterationOrder Text ProfileRoute}

/-! ## Failed reloads -/

/-- The file cannot be read, or does not parse. -/
def Unloadable (fromStr : Text → Option (HashMap Text Text)) (routesFile : Option Text) : Prop :=
  ∀ content, routesFile = some content → fromStr content = none

theorem loadRoutesFile_unloadable {routesFile : Option Text}
    (unloadable : Unloadable fromStr routesFile) : loadRoutesFile fromStr routesFile = ∅ := by
  cases routesFile with
  | none => rfl
  | some content => simp [loadRoutesFile, unloadable content rfl]

/-- A failed load empties both tables. -/
theorem loadFromFile_unloadable (regex : RegexCrate) (order : IterationOrder Text ProfileRoute)
    {router : ProfileRouter}
    (unloadable : Unloadable fromStr router.routesFile) :
    (loadFromFile fromStr regex order router).routes = ∅ ∧
      (loadFromFile fromStr regex order router).regexPatterns = [] := by
  have empty := loadRoutesFile_unloadable unloadable
  refine ⟨HashMap.eq_empty_iff_lookup.mpr fun email => ?_, ?_⟩
  · simp [empty]
  · have walked : order.walk [] = [] := List.perm_nil.mp (order.perm [])
    rw [loadFromFile_regexPatterns, empty]
    simp [walked, filePatterns]

/-- What a reload that fails must leave as it was: both tables, every lookup, and the earlier routes
in the file that the next registration writes. -/
structure LeavesTables (regex : RegexCrate) (before after : ProfileRouter) : Prop where
  /-- The exact routes. -/
  routes : after.routes = before.routes
  /-- The patterns. -/
  regexPatterns : after.regexPatterns = before.regexPatterns
  /-- The lookups. -/
  lookups : ∀ email, (lookup regex after email).1 = (lookup regex before email).1
  /-- The lines of the earlier routes in the next written file. -/
  persists : ∀ email hostOrUrl port other route, other ≠ email →
    before.routes.lookup other = some route →
    ∃ written, (updateRoute .done after email hostOrUrl port).routesFile = some written ∧
      entryLine other (persistedValue route) ++ ['\n'] <:+: written

theorem entryLine_renderRoutes {routes : HashMap Text ProfileRoute} {email : Text}
    {route : ProfileRoute} (found : routes.lookup email = some route) :
    entryLine email (persistedValue route) ++ ['\n'] <:+: renderRoutes routes := by
  have member : entryLine email (persistedValue route) ∈
      (writtenBodies routes).map fun body => entryLine body.1 body.2 :=
    List.mem_map.mpr ⟨(email, persistedValue route), mem_writtenBodies.mpr ⟨route, found, rfl⟩, rfl⟩
  obtain ⟨front, back, split⟩ := List.append_of_mem member
  rw [renderRoutes_eq, split]
  exact ⟨unlines (fileHeader ++ front), unlines back, by simp [unlines]⟩

/-- Tables that are left as they were carry their lookups and their lines with them. -/
theorem LeavesTables.of_tables {before after : ProfileRouter}
    (routes : after.routes = before.routes)
    (patterns : after.regexPatterns = before.regexPatterns) :
    LeavesTables regex before after where
  routes := routes
  regexPatterns := patterns
  lookups email := by rw [lookup_eq, lookup_eq, matchPatterns, matchPatterns, routes, patterns]
  persists email hostOrUrl port other route different found := by
    refine ⟨_, updateRoute_routesFile after email hostOrUrl port, entryLine_renderRoutes ?_⟩
    rw [AList.lookup_insert_ne different, routes]
    exact found

/-- A failed reload leaves the router as it was exactly when there was nothing to lose. -/
theorem failedReload_leavesTables_iff {router : ProfileRouter}
    (unloadable : Unloadable fromStr router.routesFile) :
    LeavesTables regex router (loadFromFile fromStr regex order router) ↔
      router.routes = ∅ ∧ router.regexPatterns = [] := by
  obtain ⟨no_routes, no_patterns⟩ := loadFromFile_unloadable regex order unloadable
  constructor
  · intro leaves
    exact ⟨leaves.routes ▸ no_routes, leaves.regexPatterns ▸ no_patterns⟩
  · intro nothing
    obtain ⟨routes_empty, patterns_empty⟩ := nothing
    exact LeavesTables.of_tables (no_routes.trans routes_empty.symm)
      (no_patterns.trans patterns_empty.symm)

/-- A router that serves one address, and a file saved in the middle of an edit. -/
def halfSaved : ProfileRouter where
  routes := (∅ : HashMap Text ProfileRoute).insert "bot@x.org".toList
    (ProfileRoute.new "bot@x.org".toList "10.0.0.7".toList 8645)
  routesFile := some "\"bot@x.org\" = \"10.0".toList
  regexPatterns := []
  writingRoutes := false

theorem halfSaved_unloadable : Unloadable Toml.fragment halfSaved.routesFile := by
  rintro content saved
  obtain rfl := Option.some.inj saved
  decide

/-- A half-saved edit takes a served address out of service. -/
theorem halfSaved_loses : ¬ LeavesTables RegexCrate.simple halfSaved
    (loadFromFile Toml.fragment RegexCrate.simple (.inOrder _ _) halfSaved) := by
  intro leaves
  have emptied :=
    (loadFromFile_unloadable RegexCrate.simple (.inOrder _ _) halfSaved_unloadable).1
  rw [leaves.routes] at emptied
  have served := HashMap.eq_empty_iff_lookup.mp emptied "bot@x.org".toList
  rw [halfSaved, AList.lookup_insert] at served
  simp at served

/-- The characterisation at the half-saved file. -/
theorem halfSaved_leavesTables_iff : LeavesTables RegexCrate.simple halfSaved
    (loadFromFile Toml.fragment RegexCrate.simple (.inOrder _ _) halfSaved) ↔
      halfSaved.routes = ∅ ∧ halfSaved.regexPatterns = [] :=
  failedReload_leavesTables_iff halfSaved_unloadable

/-! ## Where routes come from -/

/-- A route that some registration, file entry or pattern match gives rise to. -/
def Registrable (email : Text) (route : ProfileRoute) : Prop :=
  ∃ hostOrUrl port, route = routeOfRequest email hostOrUrl port

theorem registrable_new {host : Text} (absent : '/' ∉ host) (email : Text) (port : UInt16) :
    Registrable email (ProfileRoute.new email host port) :=
  ⟨host, port, by rw [routeOfRequest, if_neg fun url => absent (isUrl_iff.mp url)]⟩

theorem slash_not_mem_parseAddr {s host : Text} {port : UInt16} (absent : '/' ∉ s)
    (read : parseAddr s = some (host, port)) : '/' ∉ host := by
  have trimmed : '/' ∉ trim s := fun member => absent (trim_subset s member)
  simp only [parseAddr] at read
  split_ifs at read
  split at read
  · next rest stripped =>
      obtain ⟨⟨addr, portStr⟩, split, parsed⟩ := Option.bind_eq_some_iff.mp read
      simp only [Option.map_eq_some_iff, Prod.mk.injEq] at parsed
      obtain ⟨_, _, rfl, rfl⟩ := parsed
      rw [stripPrefix_eq_some.mp stripped, splitOnce_eq_some_append split] at trimmed
      intro member
      have inside : '/' ∈ addr := by simpa using member
      exact trimmed (by simp [inside])
  · split at read
    · next found split_at =>
        obtain ⟨⟨before, portStr⟩, split, parsed⟩ := Option.bind_eq_some_iff.mp split_at
        obtain ⟨_, _, rfl⟩ := Option.map_eq_some_iff.mp parsed
        obtain ⟨rfl, rfl⟩ := Prod.mk.inj (Option.some.inj read)
        rw [(rsplitOnce_eq_some.mp split).1] at trimmed
        exact fun member => trimmed (List.mem_append_left _ member)
    · split at read
      · obtain ⟨rfl, rfl⟩ := Prod.mk.inj (Option.some.inj read)
        decide
      · obtain ⟨rfl, rfl⟩ := Prod.mk.inj (Option.some.inj read)
        exact trimmed

theorem registrable_of_routeOfValue {key value : Text} {route : ProfileRoute}
    (read : routeOfValue key value = some route) : Registrable key route := by
  simp only [routeOfValue] at read
  split at read
  · next url =>
      obtain rfl := Option.some.inj read
      exact ⟨trim value, 0, by rw [routeOfRequest, if_pos url]⟩
  · next bare =>
      obtain ⟨⟨host, port⟩, parsed, rfl⟩ := Option.map_eq_some_iff.mp read
      rw [isUrl_iff] at bare
      exact registrable_new (slash_not_mem_parseAddr bare parsed) key port

theorem registrable_of_loadRoutesFile {routesFile : Option Text} {email : Text}
    {route : ProfileRoute} (found : (loadRoutesFile fromStr routesFile).lookup email = some route) :
    Registrable email route := by
  obtain ⟨value, read⟩ := routeOfValue_of_loadRoutesFile found
  exact registrable_of_routeOfValue read

/-- The target of a route is read back from its written form exactly when the route is
recoverable. -/
theorem targetUrl_readBack_iff {email : Text} {route : ProfileRoute}
    (registrable : Registrable email route) :
    (routeOfValue email (persistedValue route)).map ProfileRoute.targetUrl = some route.targetUrl ↔
      Recoverable route := by
  obtain ⟨hostOrUrl, port, rfl⟩ := registrable
  constructor
  · exact recoverable_of_targetUrl
  · intro recoverable
    rw [routeOfValue_persistedValue recoverable, Option.map_some]

/-! ## Reloads of the bridge's own file -/

/-- An entry of an exact email whose strings need no escapes. -/
def ExactEntry (email : Text) (route : ProfileRoute) : Prop :=
  isRegexPattern email = false ∧ PlainEntry email route

/-- A change of the exact routes, with the way its write ends. -/
inductive RouteChange
  /-- A call of `update_route`. -/
  | update (disk : DiskWrite) (email hostOrUrl : Text) (port : UInt16)
  /-- A call of `remove_route`. -/
  | remove (disk : DiskWrite) (email : Text)

namespace RouteChange

/-- The email that the call names. -/
def email : RouteChange → Text
  | .update _ email _ _ => email
  | .remove _ email => email

/-- How the write of the call ends. -/
def disk : RouteChange → DiskWrite
  | .update disk _ _ _ => disk
  | .remove disk _ => disk

/-- The router after the call. -/
def applyTo (router : ProfileRouter) : RouteChange → ProfileRouter
  | .update disk email hostOrUrl port => updateRoute disk router email hostOrUrl port
  | .remove disk email => removeRoute disk router email

/-- The call registers exact emails only, with strings that need no escapes. -/
def Clean : RouteChange → Prop
  | .update _ email hostOrUrl port => ExactEntry email (routeOfRequest email hostOrUrl port)
  | .remove _ _ => True

theorem lookup_applyTo_of_ne {router : ProfileRouter} {change : RouteChange} {email : Text}
    (unnamed : email ≠ change.email) :
    (change.applyTo router).routes.lookup email = router.routes.lookup email := by
  cases change with
  | update disk named hostOrUrl port => exact AList.lookup_insert_ne unnamed
  | remove disk named => exact AList.lookup_erase_ne unnamed

theorem applyTo_routesFile {router : ProfileRouter} {change : RouteChange}
    (written : change.disk = .done) :
    (change.applyTo router).routesFile = some (renderRoutes (change.applyTo router).routes) := by
  cases change <;> obtain rfl : _ = DiskWrite.done := written <;> rfl

end RouteChange

theorem exactEntries_applyTo {router : ProfileRouter} (entries : router.routes.All ExactEntry)
    (change : RouteChange) (clean : change.Clean) :
    (change.applyTo router).routes.All ExactEntry := by
  cases change with
  | update disk email hostOrUrl port => exact entries.insert clean
  | remove disk email => exact entries.erase email

theorem exactEntries_foldl {changes : List RouteChange} {router : ProfileRouter}
    (entries : router.routes.All ExactEntry) (clean : ∀ change ∈ changes, change.Clean) :
    (changes.foldl RouteChange.applyTo router).routes.All ExactEntry := by
  induction changes generalizing router with
  | nil => exact entries
  | cons change changes induction =>
      exact induction (exactEntries_applyTo entries change (clean change List.mem_cons_self))
        fun other member => clean other (List.mem_cons_of_mem change member)

theorem lookup_foldl_applyTo {changes : List RouteChange} {email : Text}
    (unnamed : ∀ change ∈ changes, email ≠ change.email) (router : ProfileRouter) :
    (changes.foldl RouteChange.applyTo router).routes.lookup email =
      router.routes.lookup email := by
  induction changes generalizing router with
  | nil => rfl
  | cons change changes induction =>
      rw [List.foldl_cons,
        induction fun other member => unnamed other (List.mem_cons_of_mem _ member),
        RouteChange.lookup_applyTo_of_ne (unnamed change List.mem_cons_self)]

/-- After a load of the file written for exact entries, each email leads to what its own line is
read as: there is no pattern. -/
theorem lookup_load_written (regex : RegexCrate) (order : IterationOrder Text ProfileRoute)
    (standard : Standard fromStr) {routes : HashMap Text ProfileRoute}
    (entries : routes.All ExactEntry) {reader : ProfileRouter}
    (written : reader.routesFile = some (renderRoutes routes)) (email : Text) :
    (lookup regex (loadFromFile fromStr regex order reader) email).1 =
      (routes.lookup email).bind fun route => routeOfValue email (persistedValue route) := by
  have reads := loadRoutesFile_renderRoutes standard (entries.imp fun _ _ entry => entry.2)
  have no_patterns : (loadFromFile fromStr regex order reader).regexPatterns = [] := by
    rw [List.eq_nil_iff_forall_not_mem]
    intro pattern member
    obtain ⟨key, route, found, isRegex, _, _⟩ := (mem_regexPatterns_load order).mp member
    rw [written, reads key] at found
    obtain ⟨original, known, _⟩ := Option.bind_eq_some_iff.mp found
    simp [(entries key original known).1] at isRegex
  rw [lookup_of_no_match (by simp [no_patterns]), loadFromFile_routes_lookup, written, reads]
  cases found : routes.lookup email with
  | none => simp
  | some route => simp [(entries email route found).1]

/-- The target a request for an email is sent to. -/
def targetOf (regex : RegexCrate) (router : ProfileRouter) (email : Text) : Option Text :=
  (lookup regex router email).1.map ProfileRoute.targetUrl

/-- Some pattern of the file matches the email. -/
def PatternRouted (fromStr : Text → Option (HashMap Text Text)) (regex : RegexCrate)
    (file email : Text) : Prop :=
  ∃ key route, (loadRoutesFile fromStr (some file)).lookup key = some route ∧
    isRegexPattern key = true ∧ regex.compiles key = true ∧ regex.isMatch key email = true

/-- The entry of the file for exactly this email. -/
def exactEntry (fromStr : Text → Option (HashMap Text Text)) (file email : Text) :
    Option ProfileRoute :=
  if isRegexPattern email then none else (loadRoutesFile fromStr (some file)).lookup email

@[simp]
theorem routes_lookup_load (fromStr : Text → Option (HashMap Text Text)) (regex : RegexCrate)
    (order : IterationOrder Text ProfileRoute) (file email : Text) :
    (loadFromFile fromStr regex order (ProfileRouter.new (some file))).routes.lookup email =
      exactEntry fromStr file email :=
  loadFromFile_routes_lookup (ProfileRouter.new (some file)) email

theorem exactEntry_eq_some {file email : Text} {route : ProfileRoute} :
    exactEntry fromStr file email = some route ↔
      isRegexPattern email = false ∧
        (loadRoutesFile fromStr (some file)).lookup email = some route := by
  cases isRegex : isRegexPattern email <;> simp [exactEntry, isRegex]

/-- Right after a load, the routed emails are those with an entry and those a pattern matches. -/
theorem lookup_load_isSome (fromStr : Text → Option (HashMap Text Text)) (regex : RegexCrate)
    (order : IterationOrder Text ProfileRoute) (file email : Text) :
    (lookup regex
        (loadFromFile fromStr regex order (ProfileRouter.new (some file))) email).1.isSome ↔
      (exactEntry fromStr file email).isSome ∨ PatternRouted fromStr regex file email := by
  rw [lookup_isSome, routes_lookup_load]
  refine or_congr_right ⟨?_, ?_⟩
  · intro routed
    obtain ⟨pattern, member, matching⟩ := routed
    obtain ⟨key, route, found, isRegex, compiled, rfl⟩ := (mem_regexPatterns_load order).mp member
    exact ⟨key, route, found, isRegex, compiled, matching⟩
  · intro routed
    obtain ⟨key, route, found, isRegex, compiled, matching⟩ := routed
    exact ⟨_, (mem_regexPatterns_load order).mpr ⟨key, route, found, isRegex, compiled, rfl⟩,
      matching⟩

/-- After any changes that name other emails, and a load of the file they leave, an email keeps
its target exactly when its own entry is recoverable, or it has none and owed its target to no
pattern: the file of the bridge holds no patterns. -/
theorem targetOf_reload_iff (standard : Standard fromStr) {file email : Text}
    {changes : List RouteChange} {last : RouteChange} {reader : ProfileRouter}
    (plain : (loadRoutesFile fromStr (some file)).All fun key route =>
      isRegexPattern key = false → PlainEntry key route)
    (clean : ∀ change ∈ changes ++ [last], change.Clean) (written : last.disk = .done)
    (unnamed : ∀ change ∈ changes ++ [last], email ≠ change.email)
    (same_file : reader.routesFile = ((changes ++ [last]).foldl RouteChange.applyTo
      (loadFromFile fromStr regex order (ProfileRouter.new (some file)))).routesFile) :
    targetOf regex (loadFromFile fromStr regex reloadOrder reader) email =
        targetOf regex (loadFromFile fromStr regex order (ProfileRouter.new (some file))) email ↔
      (∀ route, exactEntry fromStr file email = some route → Recoverable route) ∧
        (exactEntry fromStr file email = none → ¬ PatternRouted fromStr regex file email) := by
  have loaded : (loadFromFile fromStr regex order (ProfileRouter.new (some file))).routes.All
      ExactEntry := by
    intro key route found
    obtain ⟨exact_key, in_file⟩ := exactEntry_eq_some.mp ((routes_lookup_load ..).symm.trans found)
    exact ⟨exact_key, plain key route in_file exact_key⟩
  have file_written : reader.routesFile = some (renderRoutes
      ((changes ++ [last]).foldl RouteChange.applyTo
        (loadFromFile fromStr regex order (ProfileRouter.new (some file)))).routes) := by
    rw [same_file, List.foldl_append]
    exact RouteChange.applyTo_routesFile written
  have reloaded := lookup_load_written regex reloadOrder standard (exactEntries_foldl loaded clean)
    file_written email
  rw [lookup_foldl_applyTo unnamed, routes_lookup_load] at reloaded
  have routed := lookup_load_isSome fromStr regex order file email
  rw [targetOf, targetOf, reloaded]
  cases entry : exactEntry fromStr file email with
  | some route =>
      have served : (loadFromFile fromStr regex order
          (ProfileRouter.new (some file))).routes.lookup email = some route :=
        (routes_lookup_load ..).trans entry
      have registrable := registrable_of_loadRoutesFile (exactEntry_eq_some.mp entry).2
      rw [lookup_exact served, Option.bind_some, Option.map_some,
        targetUrl_readBack_iff registrable]
      simp
  | none =>
      rw [entry, Option.isSome_none, Bool.false_eq_true, false_or] at routed
      rw [Option.bind_none, Option.map_none, eq_comm, Option.map_eq_none_iff,
        ← Option.not_isSome_iff_eq_none, routed]
      simp

/-- A file with one pattern for a whole domain. -/
def patternFile : Text :=
  "\".*@x.org\" = \"10.0.0.7:8645\"".toList

/-- The router that has loaded the pattern and then registers an address of another domain. -/
def patternForgotten : ProfileRouter :=
  updateRoute .done (loadFromFile Toml.fragment RegexCrate.simple (.inOrder _ _)
    (ProfileRouter.new (some patternFile))) "bot@y.org".toList "10.0.0.8".toList 8645

/-- A registration for one domain takes another domain out of service at the next load. -/
theorem pattern_lost :
    targetOf RegexCrate.simple (loadFromFile Toml.fragment RegexCrate.simple (.inOrder _ _)
        patternForgotten) "agent@x.org".toList ≠
      targetOf RegexCrate.simple (loadFromFile Toml.fragment RegexCrate.simple (.inOrder _ _)
        (ProfileRouter.new (some patternFile))) "agent@x.org".toList := by
  decide

/-- An address that no pattern serves is not affected by the registration. -/
theorem other_kept :
    targetOf RegexCrate.simple (loadFromFile Toml.fragment RegexCrate.simple (.inOrder _ _)
        patternForgotten) "agent@z.org".toList =
      targetOf RegexCrate.simple (loadFromFile Toml.fragment RegexCrate.simple (.inOrder _ _)
        (ProfileRouter.new (some patternFile))) "agent@z.org".toList := by
  have parsed : loadRoutesFile Toml.fragment (some patternFile) =
      AList.singleton ".*@x.org".toList
        (ProfileRoute.new ".*@x.org".toList "10.0.0.7".toList 8645) :=
    AList.ext (by decide)
  have entry : ∀ key route,
      (loadRoutesFile Toml.fragment (some patternFile)).lookup key = some route →
        key = ".*@x.org".toList := by
    intro key route found
    rw [parsed] at found
    exact List.mem_singleton.mp (AList.lookup_isSome.mp (Option.isSome_of_eq_some found))
  have plain : (loadRoutesFile Toml.fragment (some patternFile)).All fun key route =>
      isRegexPattern key = false → PlainEntry key route := by
    intro key route found exact_key
    rw [entry key route found] at exact_key
    exact absurd exact_key (by decide)
  have clean : ∀ change ∈
      [] ++ [RouteChange.update .done "bot@y.org".toList "10.0.0.8".toList 8645], change.Clean := by
    intro change member
    obtain rfl := List.mem_singleton.mp member
    exact ⟨by decide, by decide⟩
  have unnamed : ∀ change ∈
      [] ++ [RouteChange.update .done "bot@y.org".toList "10.0.0.8".toList 8645],
      "agent@z.org".toList ≠ change.email := by
    intro change member
    obtain rfl := List.mem_singleton.mp member
    decide
  refine (targetOf_reload_iff fragment_standard plain clean rfl unnamed rfl).mpr ⟨?_, fun _ => ?_⟩
  · intro route found
    have own := entry _ route (exactEntry_eq_some.mp found).2
    exact absurd own (by decide)
  · intro routed
    obtain ⟨key, route, found, _, _, matching⟩ := routed
    rw [entry key route found] at matching
    exact absurd matching (by decide)

end AimailBridge
