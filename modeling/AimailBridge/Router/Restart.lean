import AimailBridge.Router.Reload

/-!
# Restarts

A registration takes every email for an exact one, and the loader takes a key with a regex
character for a pattern.  A registration therefore survives a restart exactly when its own line
gives its target back, or some pattern does, and the keys that come back as patterns route nothing
new.
-/

namespace AimailBridge

open Foundation Text Toml ProfileRouter

variable {fromStr : Text → Option (HashMap Text Text)} {regex : RegexCrate}

/-- The router of the process that starts after a registration. -/
def restarted (fromStr : Text → Option (HashMap Text Text)) (regex : RegexCrate)
    (order : IterationOrder Text ProfileRoute) (router : ProfileRouter) : ProfileRouter :=
  loadFromFile fromStr regex order (ProfileRouter.new router.routesFile)

/-- Whatever order the loader meets the entries in, the registered email keeps its target across the
restart, and no other email gains a route. -/
def SurvivesRestart (fromStr : Text → Option (HashMap Text Text)) (regex : RegexCrate)
    (router : ProfileRouter) (email hostOrUrl : Text) (port : UInt16) : Prop :=
  ∀ order,
    targetOf regex
        (restarted fromStr regex order (updateRoute .done router email hostOrUrl port)) email =
      some (routeOfRequest email hostOrUrl port).targetUrl ∧
    ∀ other, other ≠ email →
      (lookup regex (restarted fromStr regex order
        (updateRoute .done router email hostOrUrl port)) other).1.isSome →
      (lookup regex (updateRoute .done router email hostOrUrl port) other).1.isSome

/-- The route that an email's own line in the written file is read as. -/
def readBack (routes : HashMap Text ProfileRoute) (email : Text) : Option ProfileRoute :=
  (routes.lookup email).bind fun route => routeOfValue email (persistedValue route)

/-- A registered email that the loader takes for a pattern, with the route its line is read as. -/
def ComesBackAsPattern (regex : RegexCrate) (routes : HashMap Text ProfileRoute) (key : Text)
    (route : ProfileRoute) : Prop :=
  readBack routes key = some route ∧ isRegexPattern key = true ∧ regex.compiles key = true

/-- The exact entry that an email comes back with. -/
def comesBackExact (routes : HashMap Text ProfileRoute) (email : Text) : Option ProfileRoute :=
  if isRegexPattern email then none else readBack routes email

/-- A restart does no harm: a registered email that comes back as an exact one has a recoverable
route, and any other is matched by some of the emails that come back as patterns, and by none that
leads elsewhere; and these match no other email that had no route. -/
structure RestartHarmless (regex : RegexCrate) (router : ProfileRouter) (email : Text)
    (route : ProfileRoute) : Prop where
  /-- The route is recoverable, if the email comes back as an exact one. -/
  recovered : ∀ read, comesBackExact router.routes email = some read → Recoverable route
  /-- The email is matched, if it does not. -/
  matched : comesBackExact router.routes email = none →
    ∃ key target, ComesBackAsPattern regex router.routes key target ∧ regex.isMatch key email = true
  /-- It is matched by nothing that leads elsewhere. -/
  agree : comesBackExact router.routes email = none → ∀ key target,
    ComesBackAsPattern regex router.routes key target → regex.isMatch key email = true →
      defaultTarget target.host target.port = route.targetUrl
  /-- Other emails that are matched are in the table or matched by a pattern already. -/
  others : ∀ key target other, ComesBackAsPattern regex router.routes key target → other ≠ email →
    regex.isMatch key other = true →
      other ∈ router.routes ∨
        ∃ pattern ∈ router.regexPatterns, regex.isMatch pattern.re other = true

/-- The exact routes after a restart are the registered emails without a regex character. -/
theorem restarted_routes_lookup (regex : RegexCrate) (order : IterationOrder Text ProfileRoute)
    (standard : Standard fromStr) {router : ProfileRouter} (plain : router.routes.All PlainEntry)
    (written : router.routesFile = some (renderRoutes router.routes)) (email : Text) :
    (restarted fromStr regex order router).routes.lookup email =
      comesBackExact router.routes email := by
  rw [restarted, loadFromFile_routes_lookup, ProfileRouter.new, written,
    loadRoutesFile_renderRoutes standard plain, comesBackExact, readBack]

/-- The patterns after a restart are the registered emails with a regex character. -/
theorem mem_restarted_regexPatterns (regex : RegexCrate) (order : IterationOrder Text ProfileRoute)
    (standard : Standard fromStr) {router : ProfileRouter} (plain : router.routes.All PlainEntry)
    (written : router.routesFile = some (renderRoutes router.routes)) (pattern : RegexPattern) :
    pattern ∈ (restarted fromStr regex order router).regexPatterns ↔
      ∃ key route, ComesBackAsPattern regex router.routes key route ∧
        pattern = { re := key, key, host := route.host, port := route.port } := by
  have reads : ∀ key,
      (loadRoutesFile fromStr (ProfileRouter.new router.routesFile).routesFile).lookup key =
        readBack router.routes key := by
    intro key
    rw [ProfileRouter.new, written, loadRoutesFile_renderRoutes standard plain, readBack]
  rw [restarted, mem_regexPatterns_load]
  simp only [reads, ComesBackAsPattern, and_assoc]

/-- The walk that meets one entry before all others. -/
def startingWith (entry : Σ _ : Text, ProfileRoute) : IterationOrder Text ProfileRoute where
  walk entries := if entry ∈ entries then entry :: entries.erase entry else entries
  perm entries := by
    split
    · next member => exact (List.perm_cons_erase member).symm
    · exact List.Perm.refl entries

/-- A pattern of a file that matches an email decides its lookup when its entry is met first. -/
theorem matchPatterns_load_startingWith {reader : ProfileRouter} {key email : Text}
    {route : ProfileRoute}
    (entry : (loadRoutesFile fromStr reader.routesFile).lookup key = some route)
    (isRegex : isRegexPattern key = true) (compiled : regex.compiles key = true)
    (matching : regex.isMatch key email = true) :
    matchPatterns regex (loadFromFile fromStr regex (startingWith ⟨key, route⟩) reader) email =
      some { re := key, key, host := route.host, port := route.port } := by
  have member : ⟨key, route⟩ ∈ (loadRoutesFile fromStr reader.routesFile).entries :=
    AList.mem_lookup_iff.mp entry
  have first : (startingWith ⟨key, route⟩).walk (loadRoutesFile fromStr reader.routesFile).entries =
      ⟨key, route⟩ :: (loadRoutesFile fromStr reader.routesFile).entries.erase ⟨key, route⟩ :=
    if_pos member
  rw [matchPatterns, loadFromFile_regexPatterns, first, filePatterns, List.filterMap_cons]
  simp [isRegex, compiled, matching]

/-- A matching pattern decides a lookup when its entry is met first. -/
theorem matchPatterns_startingWith (standard : Standard fromStr) {router : ProfileRouter}
    (plain : router.routes.All PlainEntry)
    (written : router.routesFile = some (renderRoutes router.routes)) {key email : Text}
    {route : ProfileRoute} (comes_back : ComesBackAsPattern regex router.routes key route)
    (matching : regex.isMatch key email = true) :
    matchPatterns regex (restarted fromStr regex (startingWith ⟨key, route⟩) router) email =
      some { re := key, key, host := route.host, port := route.port } := by
  obtain ⟨found, isRegex, compiled⟩ := comes_back
  have entry :
      (loadRoutesFile fromStr (ProfileRouter.new router.routesFile).routesFile).lookup key =
        some route := by
    rw [ProfileRouter.new, written, loadRoutesFile_renderRoutes standard plain]
    exact found
  exact matchPatterns_load_startingWith entry isRegex compiled matching

/-- What comes back exact leads to the registered target exactly when the route is recoverable. -/
theorem comesBackExact_targetUrl_iff {routes : HashMap Text ProfileRoute} {email : Text}
    {route read : ProfileRoute} (own : routes.lookup email = some route)
    (registrable : Registrable email route) (comes_back : comesBackExact routes email = some read) :
    read.targetUrl = route.targetUrl ↔ Recoverable route := by
  rw [comesBackExact] at comes_back
  split at comes_back
  · simp at comes_back
  · rw [readBack, own, Option.bind_some] at comes_back
    rw [← targetUrl_readBack_iff registrable, comes_back, Option.map_some, Option.some.injEq]

/-- An email that comes back exact is sent to what its own line is read as. -/
theorem targetOf_restarted_exact (order : IterationOrder Text ProfileRoute)
    (standard : Standard fromStr) {router : ProfileRouter} (plain : router.routes.All PlainEntry)
    (written : router.routesFile = some (renderRoutes router.routes)) {email : Text}
    {read : ProfileRoute} (comes_back : comesBackExact router.routes email = some read) :
    targetOf regex (restarted fromStr regex order router) email = some read.targetUrl := by
  rw [targetOf, lookup_eq, restarted_routes_lookup regex order standard plain written, comes_back,
    Option.some_or, Option.map_some]

/-- Any other email is sent to the default endpoint of the pattern that matches it first. -/
theorem targetOf_restarted_pattern (order : IterationOrder Text ProfileRoute)
    (standard : Standard fromStr) {router : ProfileRouter} (plain : router.routes.All PlainEntry)
    (written : router.routesFile = some (renderRoutes router.routes)) {email : Text}
    (missing : comesBackExact router.routes email = none) :
    targetOf regex (restarted fromStr regex order router) email =
      (matchPatterns regex (restarted fromStr regex order router) email).map fun pattern =>
        defaultTarget pattern.host pattern.port := by
  rw [targetOf, lookup_eq, restarted_routes_lookup regex order standard plain written, missing,
    Option.none_or, Option.map_map]
  rfl

/-- A pattern that is found after a restart is a registered email. -/
theorem matchPatterns_restarted (order : IterationOrder Text ProfileRoute)
    (standard : Standard fromStr) {router : ProfileRouter} (plain : router.routes.All PlainEntry)
    (written : router.routesFile = some (renderRoutes router.routes)) {email : Text}
    {pattern : RegexPattern}
    (found : matchPatterns regex (restarted fromStr regex order router) email = some pattern) :
    ∃ key target, ComesBackAsPattern regex router.routes key target ∧
      regex.isMatch key email = true ∧
        pattern = { re := key, key, host := target.host, port := target.port } := by
  obtain ⟨key, target, comes_back, rfl⟩ :=
    (mem_restarted_regexPatterns regex order standard plain written pattern).mp
      (List.mem_of_find?_eq_some found)
  exact ⟨key, target, comes_back, by simpa using List.find?_some found, rfl⟩

/-- A pattern that matches an email makes every restart find one. -/
theorem matchPatterns_restarted_isSome (order : IterationOrder Text ProfileRoute)
    (standard : Standard fromStr) {router : ProfileRouter} (plain : router.routes.All PlainEntry)
    (written : router.routesFile = some (renderRoutes router.routes)) {key email : Text}
    {target : ProfileRoute} (comes_back : ComesBackAsPattern regex router.routes key target)
    (matching : regex.isMatch key email = true) :
    (matchPatterns regex (restarted fromStr regex order router) email).isSome := by
  rw [matchPatterns, List.find?_isSome]
  exact ⟨_, (mem_restarted_regexPatterns regex order standard plain written _).mpr
    ⟨key, target, comes_back, rfl⟩, matching⟩

/-- The email keeps its target whatever order the loader meets the entries in. -/
theorem target_restarted_iff (standard : Standard fromStr) {router : ProfileRouter}
    (plain : router.routes.All PlainEntry)
    (written : router.routesFile = some (renderRoutes router.routes)) {email : Text}
    {route : ProfileRoute} (own : router.routes.lookup email = some route)
    (registrable : Registrable email route) :
    (∀ order, targetOf regex (restarted fromStr regex order router) email =
        some route.targetUrl) ↔
      (∀ read, comesBackExact router.routes email = some read → Recoverable route) ∧
      (comesBackExact router.routes email = none → ∃ key target,
        ComesBackAsPattern regex router.routes key target ∧ regex.isMatch key email = true) ∧
      (comesBackExact router.routes email = none → ∀ key target,
        ComesBackAsPattern regex router.routes key target → regex.isMatch key email = true →
          defaultTarget target.host target.port = route.targetUrl) := by
  cases comes_back : comesBackExact router.routes email with
  | some read =>
      have kept_iff : ∀ order, targetOf regex (restarted fromStr regex order router) email =
          some route.targetUrl ↔ Recoverable route := by
        intro order
        rw [targetOf_restarted_exact order standard plain written comes_back, Option.some.injEq]
        exact comesBackExact_targetUrl_iff own registrable comes_back
      constructor
      · intro kept
        exact ⟨fun _ _ => (kept_iff (.inOrder _ _)).mp (kept _), (nomatch ·), (nomatch ·)⟩
      · exact fun ⟨recovered, _, _⟩ order => (kept_iff order).mpr (recovered read rfl)
  | none =>
      have sent := fun order =>
        @targetOf_restarted_pattern _ regex order standard router plain written email comes_back
      constructor
      · intro kept
        refine ⟨fun _ found => (nomatch found), fun _ => ?_,
          fun _ key target pattern_back matching => ?_⟩
        · obtain ⟨pattern, found, _⟩ :=
            Option.map_eq_some_iff.mp ((sent (.inOrder _ _)).symm.trans (kept _))
          obtain ⟨key, target, pattern_back, matching, _⟩ :=
            matchPatterns_restarted _ standard plain written found
          exact ⟨key, target, pattern_back, matching⟩
        · have first := kept (startingWith ⟨key, target⟩)
          rw [sent, matchPatterns_startingWith standard plain written pattern_back matching]
            at first
          simpa using first
      · rintro ⟨_, matched, agree⟩ order
        obtain ⟨key, target, pattern_back, matching⟩ := matched rfl
        obtain ⟨pattern, found⟩ := Option.isSome_iff_exists.mp
          (matchPatterns_restarted_isSome order standard plain written pattern_back matching)
        obtain ⟨first, first_target, first_back, first_matching, rfl⟩ :=
          matchPatterns_restarted order standard plain written found
        rw [sent, found, Option.map_some, agree rfl first first_target first_back first_matching]

/-- An email has a route after a restart when it comes back exact, or when it is matched. -/
theorem lookup_restarted_isSome (order : IterationOrder Text ProfileRoute)
    (standard : Standard fromStr) {router : ProfileRouter} (plain : router.routes.All PlainEntry)
    (written : router.routesFile = some (renderRoutes router.routes)) {email : Text} :
    (lookup regex (restarted fromStr regex order router) email).1.isSome ↔
      (comesBackExact router.routes email).isSome ∨ ∃ key target,
        ComesBackAsPattern regex router.routes key target ∧ regex.isMatch key email = true := by
  rw [lookup_isSome, restarted_routes_lookup regex order standard plain written]
  simp only [mem_restarted_regexPatterns regex order standard plain written]
  refine or_congr_right ⟨?_, ?_⟩
  · rintro ⟨_, ⟨key, target, comes_back, rfl⟩, matching⟩
    exact ⟨key, target, comes_back, matching⟩
  · rintro ⟨key, target, comes_back, matching⟩
    exact ⟨_, ⟨key, target, comes_back, rfl⟩, matching⟩

/-- Only registered emails come back. -/
theorem mem_of_comesBackExact {routes : HashMap Text ProfileRoute} {email : Text}
    (comes_back : (comesBackExact routes email).isSome) : email ∈ routes := by
  rw [comesBackExact] at comes_back
  split at comes_back
  · simp at comes_back
  · obtain ⟨read, found⟩ := Option.isSome_iff_exists.mp comes_back
    obtain ⟨original, known, _⟩ := Option.bind_eq_some_iff.mp found
    exact AList.lookup_isSome.mp (Option.isSome_of_eq_some known)

/-- A registration survives a restart exactly when the restart is harmless. -/
theorem survivesRestart_iff (standard : Standard fromStr) {router : ProfileRouter}
    {email hostOrUrl : Text} {port : UInt16} (table_plain : router.routes.All PlainEntry)
    (entry_plain : PlainEntry email (routeOfRequest email hostOrUrl port)) :
    SurvivesRestart fromStr regex router email hostOrUrl port ↔
      RestartHarmless regex (updateRoute .done router email hostOrUrl port) email
        (routeOfRequest email hostOrUrl port) := by
  have plain : HashMap.All PlainEntry (updateRoute .done router email hostOrUrl port).routes :=
    table_plain.insert entry_plain
  have own : (updateRoute .done router email hostOrUrl port).routes.lookup email =
      some (routeOfRequest email hostOrUrl port) := AList.lookup_insert _
  have registrable : Registrable email (routeOfRequest email hostOrUrl port) :=
    ⟨hostOrUrl, port, rfl⟩
  have written : (updateRoute .done router email hostOrUrl port).routesFile =
      some (renderRoutes (updateRoute .done router email hostOrUrl port).routes) := rfl
  rw [SurvivesRestart]
  generalize updateRoute .done router email hostOrUrl port = registered at plain written own
  generalize (routeOfRequest email hostOrUrl port) = route at own registrable
  have target_kept := @target_restarted_iff fromStr regex standard registered plain written email
    route own registrable
  constructor
  · intro survives
    obtain ⟨recovered, matched, agree⟩ := target_kept.mp fun order => (survives order).1
    refine ⟨recovered, matched, agree, fun key target other comes_back different matching => ?_⟩
    have routed := (survives (.inOrder _ _)).2 other different
      ((lookup_restarted_isSome _ standard plain written).mpr
        (Or.inr ⟨key, target, comes_back, matching⟩))
    rwa [lookup_isSome, AList.lookup_isSome] at routed
  · intro harmless order
    refine ⟨target_kept.mpr ⟨harmless.recovered, harmless.matched, harmless.agree⟩ order,
      fun other different routed => ?_⟩
    rw [lookup_isSome, AList.lookup_isSome]
    rcases (lookup_restarted_isSome order standard plain written).mp routed with
      comes_back | ⟨key, target, comes_back, matching⟩
    · exact Or.inl (mem_of_comesBackExact comes_back)
    · exact harmless.others key target other comes_back different matching

/-- Emails without regex characters and with recoverable routes are harmless. -/
theorem restartHarmless_of_exact {router : ProfileRouter} {email : Text} {route : ProfileRoute}
    (recoverable : Recoverable route) (comes_back : (comesBackExact router.routes email).isSome)
    (exact_keys : ∀ key ∈ router.routes, isRegexPattern key = false) :
    RestartHarmless regex router email route where
  recovered _ _ := recoverable
  matched missing := by simp [missing] at comes_back
  agree missing := by simp [missing] at comes_back
  others key target other pattern_back := by
    obtain ⟨original, known, _⟩ := Option.bind_eq_some_iff.mp pattern_back.1
    have member : key ∈ router.routes := AList.lookup_isSome.mp (by simp [known])
    exact absurd pattern_back.2.1 (by simp [exact_keys key member])

/-- A plain address survives. -/
theorem plain_address_survives : SurvivesRestart Toml.fragment RegexCrate.simple
    (ProfileRouter.new none) "bot@x.org".toList "10.0.0.7".toList 8645 := by
  refine (survivesRestart_iff fragment_standard (HashMap.all_empty _) (by decide)).mpr
    (restartHarmless_of_exact (recoverable_new (by decide) (by decide) _ _) (by decide) ?_)
  intro key member
  obtain rfl : key = "bot@x.org".toList := List.mem_singleton.mp member
  decide

/-- A plus address is registered as an exact email and comes back as a pattern that does not even
match itself. -/
theorem plus_address_lost : ¬ SurvivesRestart Toml.fragment RegexCrate.simple
    (ProfileRouter.new none) "a+b@x.com".toList "10.0.0.7".toList 8645 := by
  intro survives
  have kept := (survives (.inOrder _ _)).1
  have missing : targetOf RegexCrate.simple (restarted Toml.fragment RegexCrate.simple
      (.inOrder _ _)
      (updateRoute .done (ProfileRouter.new none) "a+b@x.com".toList "10.0.0.7".toList 8645))
      "a+b@x.com".toList = none := by
    decide
  rw [missing] at kept
  simp at kept

end AimailBridge
