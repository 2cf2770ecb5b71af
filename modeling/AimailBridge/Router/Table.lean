import AimailBridge.Foundation.Pattern
import AimailBridge.Foundation.Toml
import AimailBridge.Router.Route

/-!
# The route table

`ProfileRouter` keeps exact routes and regex patterns in memory and the exact routes in a file.  The
operations are those of the source; the TOML parser, the regex engine and the order in which a loop
walks a hash map are parameters.
-/

namespace AimailBridge

open Foundation Text

/-- What the regex crate decides. -/
structure RegexCrate where
  /-- Whether a text is a regular expression. -/
  compiles : Text → Bool
  /-- Whether the expression matches somewhere in the haystack. -/
  isMatch : Text → Text → Bool

/-- A crate that compiles the simple patterns only. -/
def RegexCrate.simple : RegexCrate where
  compiles pattern := (Pattern.items pattern).isSome
  isMatch := Pattern.isMatch

/-- A regex pattern kept for lookups. -/
structure RegexPattern where
  /-- The compiled expression, by its source text. -/
  re : Text
  /-- Key of the file entry. -/
  key : Text
  /-- Host of the entry's route. -/
  host : Text
  /-- Port of the entry's route. -/
  port : UInt16
  deriving DecidableEq

/-- Thread-safe email → route lookup table, with the contents of its file. -/
structure ProfileRouter where
  /-- The exact routes. -/
  routes : HashMap Text ProfileRoute
  /-- Contents of the routes file, when it can be read. -/
  routesFile : Option Text
  /-- The patterns, in the order lookups try them. -/
  regexPatterns : List RegexPattern
  /-- The guard flag around the bridge's own writes. -/
  writingRoutes : Bool

/-- How a write to the routes file ends. -/
inductive DiskWrite
  /-- The whole text is written. -/
  | done
  /-- The write fails, and leaves this behind. -/
  | failed (left : Option Text)
  deriving DecidableEq

namespace ProfileRouter

/-- A router before anything is loaded. -/
def new (routesFile : Option Text) : ProfileRouter where
  routes := ∅
  routesFile := routesFile
  regexPatterns := []
  writingRoutes := false

/-- The characters that make a key a regex pattern. -/
def regexChars : List Char :=
  ['*', '+', '?', '[', ']', '(', ')', '^', '$', '|', '\\']

/-- Whether a key of the routes file is taken as a regex pattern. -/
def isRegexPattern (key : Text) : Bool :=
  key.any (regexChars.contains ·)

/-! ## Loading -/

section Loading

variable (fromStr : Text → Option (HashMap Text Text)) (regex : RegexCrate)
  (order : IterationOrder Text ProfileRoute)

/-- The routes of a file; an unreadable or malformed file has none. -/
def loadRoutesFile (routesFile : Option Text) : HashMap Text ProfileRoute :=
  match routesFile with
  | none => ∅
  | some content =>
      match fromStr content with
      | none => ∅
      | some parsed => HashMap.collect routeOfValue parsed.entries

/-- First pass of a load: the entries that are exact emails. -/
def exactRoutes (walk : List (Σ _ : Text, ProfileRoute)) : HashMap Text ProfileRoute :=
  HashMap.collect (fun key route => if isRegexPattern key then none else some route) walk

/-- Second pass, one entry: record a pattern and expand it against the known emails. -/
def expandPattern (allEmails : List Text)
    (state : List RegexPattern × HashMap Text ProfileRoute) (entry : Σ _ : Text, ProfileRoute) :
    List RegexPattern × HashMap Text ProfileRoute :=
  if !isRegexPattern entry.1 then state
  else if !regex.compiles entry.1 then state
  else
    (state.1 ++ [{ re := entry.1, key := entry.1, host := entry.2.host, port := entry.2.port }],
      allEmails.foldl (fun routes email =>
        if regex.isMatch entry.1 email then
          if (routes.lookup email).isSome then routes else routes.insert email entry.2
        else routes) state.2)

/-- Install the tables a file's routes give rise to. -/
def installRoutes (overrides : HashMap Text ProfileRoute) (router : ProfileRouter) :
    ProfileRouter :=
  let walk := order.walk overrides.entries
  let routes := exactRoutes walk
  let (rawPatterns, routes) := walk.foldl (expandPattern regex routes.keys) ([], routes)
  { router with routes, regexPatterns := rawPatterns }

/-- Load routes from the routes file into memory. -/
def loadFromFile (router : ProfileRouter) : ProfileRouter :=
  installRoutes regex order (loadRoutesFile fromStr router.routesFile)
    { router with writingRoutes := false }

end Loading

/-! ## Lookups -/

/-- The first pattern that matches an email. -/
def matchPatterns (regex : RegexCrate) (router : ProfileRouter) (email : Text) :
    Option RegexPattern :=
  router.regexPatterns.find? fun pattern => regex.isMatch pattern.re email

/-- Look up the route for an email; a pattern match is remembered as an exact route. -/
def lookup (regex : RegexCrate) (router : ProfileRouter) (email : Text) :
    Option ProfileRoute × ProfileRouter :=
  match router.routes.lookup email with
  | some route => (some route, router)
  | none =>
      match matchPatterns regex router email with
      | some pattern =>
          let route := ProfileRoute.new email pattern.host pattern.port
          (some route, { router with routes := router.routes.insert email route })
      | none => (none, router)

/-- All current routes. -/
def listRoutes (router : ProfileRouter) : List ProfileRoute :=
  router.routes.entries.map Sigma.snd

/-- All known emails. -/
def listEmails (router : ProfileRouter) : List Text :=
  router.routes.keys

/-! ## Persisting -/

/-- The emails of a table in sorted order. -/
def sortedKeys (routes : HashMap Text ProfileRoute) : List Text :=
  routes.keys.insertionSort (· ≤ ·)

/-- The comment lines at the top of a written file. -/
def fileHeader : List Text :=
  ["# Auto-generated by aimail-bridge.".toList, "# File changes take effect immediately.".toList]

/-- The text `write_current_routes` writes for a table. -/
def renderRoutes (routes : HashMap Text ProfileRoute) : Text :=
  Toml.unlines fileHeader ++ (sortedKeys routes).flatMap fun email =>
    match routes.lookup email with
    | some route => Toml.entryLine email (persistedValue route) ++ ['\n']
    | none => []

/-- Write the in-memory routes to the routes file. -/
def writeCurrentRoutes (disk : DiskWrite) (router : ProfileRouter) : ProfileRouter :=
  { router with
    routesFile :=
      match disk with
      | .done => some (renderRoutes router.routes)
      | .failed left => left
    writingRoutes := false }

/-- Add or update a route for an exact email, then persist. -/
def updateRoute (disk : DiskWrite) (router : ProfileRouter) (email hostOrUrl : Text)
    (port : UInt16) : ProfileRouter :=
  writeCurrentRoutes disk
    { router with routes := router.routes.insert email (routeOfRequest email hostOrUrl port) }

/-- Remove a route by exact email, then persist. -/
def removeRoute (disk : DiskWrite) (router : ProfileRouter) (email : Text) : ProfileRouter :=
  writeCurrentRoutes disk { router with routes := router.routes.erase email }

end ProfileRouter

open ProfileRouter

/-! ## What the operations do to lookups -/

variable {fromStr : Text → Option (HashMap Text Text)} {regex : RegexCrate}
  {order : IterationOrder Text ProfileRoute}

/-- A file that parses gives each key the route that its value is read as. -/
theorem loadRoutesFile_lookup {content email : Text} {parsed : HashMap Text Text}
    (accepted : fromStr content = some parsed) :
    (loadRoutesFile fromStr (some content)).lookup email =
      (parsed.lookup email).bind (routeOfValue email) := by
  simp only [loadRoutesFile, accepted]
  rw [HashMap.lookup_collect routeOfValue parsed.nodupKeys]
  rfl

/-- Every route of a file is read from a value. -/
theorem routeOfValue_of_loadRoutesFile {routesFile : Option Text} {email : Text}
    {route : ProfileRoute} (found : (loadRoutesFile fromStr routesFile).lookup email = some route) :
    ∃ value, routeOfValue email value = some route := by
  cases routesFile with
  | none => simp [loadRoutesFile] at found
  | some content =>
      cases accepted : fromStr content with
      | none => simp [loadRoutesFile, accepted] at found
      | some parsed =>
          rw [loadRoutesFile_lookup accepted] at found
          obtain ⟨value, _, read⟩ := Option.bind_eq_some_iff.mp found
          exact ⟨value, read⟩

/-- The patterns a walk over a file's entries records. -/
def filePatterns (regex : RegexCrate) (walk : List (Σ _ : Text, ProfileRoute)) :
    List RegexPattern :=
  walk.filterMap fun entry =>
    if isRegexPattern entry.1 && regex.compiles entry.1 then
      some { re := entry.1, key := entry.1, host := entry.2.host, port := entry.2.port }
    else none

theorem lookup_exactRoutes {overrides : HashMap Text ProfileRoute} (email : Text) :
    (exactRoutes (order.walk overrides.entries)).lookup email =
      if isRegexPattern email then none else overrides.lookup email := by
  rw [exactRoutes, HashMap.lookup_collect _ (order.nodupKeys overrides.nodupKeys),
    order.dlookup_walk]
  cases overrides.lookup email <;> cases isRegexPattern email <;> rfl

/-- The expansion of a pattern finds every known email taken already. -/
theorem expand_known (routes : HashMap Text ProfileRoute) (pattern : Text) (route : ProfileRoute)
    {emails : List Text} (known : ∀ email ∈ emails, (routes.lookup email).isSome) :
    (emails.foldl (fun routes email =>
      if regex.isMatch pattern email then
        if (routes.lookup email).isSome then routes else routes.insert email route
      else routes) routes) = routes := by
  induction emails with
  | nil => rfl
  | cons email emails induction =>
      rw [List.foldl_cons, known email List.mem_cons_self]
      simp only [if_true, ite_self]
      exact induction fun other member => known other (List.mem_cons_of_mem email member)

theorem foldl_expandPattern (routes : HashMap Text ProfileRoute)
    (walk : List (Σ _ : Text, ProfileRoute)) (patterns : List RegexPattern) :
    walk.foldl (expandPattern regex routes.keys) (patterns, routes) =
      (patterns ++ filePatterns regex walk, routes) := by
  have known : ∀ email ∈ routes.keys, (routes.lookup email).isSome :=
    fun email member => HashMap.mem_keys_iff_lookup.mp member
  induction walk generalizing patterns with
  | nil => simp [filePatterns]
  | cons entry walk induction =>
      have step : expandPattern regex routes.keys (patterns, routes) entry =
          (patterns ++ filePatterns regex [entry], routes) := by
        rw [expandPattern]
        cases isRegex : isRegexPattern entry.1 <;> cases compiled : regex.compiles entry.1 <;>
          simp [filePatterns, isRegex, compiled, expand_known routes entry.1 entry.2 known]
      rw [List.foldl_cons, step, induction, filePatterns, filePatterns, filePatterns,
        List.append_assoc, ← List.filterMap_append, List.singleton_append]

/-- A load installs the exact entries of the file, and its patterns in the order of the walk. -/
theorem installRoutes_eq (overrides : HashMap Text ProfileRoute) (router : ProfileRouter) :
    installRoutes regex order overrides router =
      { router with
        routes := exactRoutes (order.walk overrides.entries)
        regexPatterns := filePatterns regex (order.walk overrides.entries) } := by
  simp only [installRoutes, foldl_expandPattern, List.nil_append]

@[simp]
theorem loadFromFile_routes_lookup (router : ProfileRouter) (email : Text) :
    (loadFromFile fromStr regex order router).routes.lookup email =
      if isRegexPattern email then none
      else (loadRoutesFile fromStr router.routesFile).lookup email := by
  rw [loadFromFile, installRoutes_eq]
  exact lookup_exactRoutes email

theorem loadFromFile_regexPatterns (router : ProfileRouter) :
    (loadFromFile fromStr regex order router).regexPatterns =
      filePatterns regex (order.walk (loadRoutesFile fromStr router.routesFile).entries) := by
  rw [loadFromFile, installRoutes_eq]

theorem mem_filePatterns {walk : List (Σ _ : Text, ProfileRoute)} {pattern : RegexPattern} :
    pattern ∈ filePatterns regex walk ↔ ∃ key route, ⟨key, route⟩ ∈ walk ∧
      isRegexPattern key = true ∧ regex.compiles key = true ∧
        pattern = { re := key, key, host := route.host, port := route.port } := by
  simp only [filePatterns, List.mem_filterMap, Option.ite_none_right_eq_some, Bool.and_eq_true,
    Option.some.injEq, Sigma.exists]
  constructor
  · rintro ⟨key, route, member, ⟨isRegex, compiled⟩, rfl⟩
    exact ⟨key, route, member, isRegex, compiled, rfl⟩
  · rintro ⟨key, route, member, isRegex, compiled, rfl⟩
    exact ⟨key, route, member, ⟨isRegex, compiled⟩, rfl⟩

/-- A load puts the patterns of the file in force. -/
theorem mem_regexPatterns_load (order : IterationOrder Text ProfileRoute) {router : ProfileRouter}
    {pattern : RegexPattern} :
    pattern ∈ (loadFromFile fromStr regex order router).regexPatterns ↔
      ∃ key route, (loadRoutesFile fromStr router.routesFile).lookup key = some route ∧
        isRegexPattern key = true ∧ regex.compiles key = true ∧
          pattern = { re := key, key, host := route.host, port := route.port } := by
  simp only [loadFromFile_regexPatterns, mem_filePatterns, order.mem_walk_iff]

/-- An email is routed when it has an exact route or some pattern matches it. -/
theorem lookup_isSome {router : ProfileRouter} {email : Text} :
    (lookup regex router email).1.isSome ↔
      (router.routes.lookup email).isSome ∨
        ∃ pattern ∈ router.regexPatterns, regex.isMatch pattern.re email = true := by
  rw [ProfileRouter.lookup]
  cases exact_route : router.routes.lookup email with
  | some route => simp
  | none =>
      cases found : matchPatterns regex router email with
      | some pattern =>
          have member := List.mem_of_find?_eq_some found
          have matching := List.find?_some found
          simp only [Option.isSome_some, Option.isSome_none, Bool.false_eq_true, false_or, true_iff]
          exact ⟨pattern, member, matching⟩
      | none =>
          have missing := List.find?_eq_none.mp found
          simpa using missing

theorem lookup_exact {router : ProfileRouter} {email : Text} {route : ProfileRoute}
    (found : router.routes.lookup email = some route) :
    lookup regex router email = (some route, router) := by
  simp [ProfileRouter.lookup, found]

/-- A lookup answers from the exact routes first and from the patterns otherwise. -/
theorem lookup_eq (router : ProfileRouter) (email : Text) :
    (lookup regex router email).1 = (router.routes.lookup email).or
      ((matchPatterns regex router email).map fun pattern =>
        ProfileRoute.new email pattern.host pattern.port) := by
  rw [ProfileRouter.lookup]
  cases router.routes.lookup email with
  | some route => rfl
  | none => cases matchPatterns regex router email <;> rfl

/-- Without a pattern that matches, a lookup is a search of the exact routes. -/
theorem lookup_of_no_match {router : ProfileRouter} {email : Text}
    (missing : ∀ pattern ∈ router.regexPatterns, regex.isMatch pattern.re email = false) :
    (lookup regex router email).1 = router.routes.lookup email := by
  have none_found : matchPatterns regex router email = none :=
    List.find?_eq_none.mpr fun pattern member => by simp [missing pattern member]
  rw [lookup_eq, none_found, Option.map_none, Option.or_none]

/-- What a lookup remembers is what it would find again, so no lookup changes the answer of
another. -/
theorem lookup_lookup (router : ProfileRouter) (other email : Text) :
    (lookup regex (lookup regex router other).2 email).1 = (lookup regex router email).1 := by
  rw [lookup_eq, lookup_eq]
  cases exact_route : router.routes.lookup other with
  | some route => rw [lookup_exact exact_route]
  | none =>
      cases found : matchPatterns regex router other with
      | none => simp [ProfileRouter.lookup, exact_route, found]
      | some pattern =>
          have remembered : (lookup regex router other).2 = { router with
              routes := router.routes.insert other
                (ProfileRoute.new other pattern.host pattern.port) } := by
            simp [ProfileRouter.lookup, exact_route, found]
          rw [remembered]
          by_cases same : email = other
          · subst same
            rw [AList.lookup_insert, exact_route, found]
            rfl
          · rw [AList.lookup_insert_ne same]
            rfl

@[simp]
theorem updateRoute_routes (disk : DiskWrite) (router : ProfileRouter) (email hostOrUrl : Text)
    (port : UInt16) :
    (updateRoute disk router email hostOrUrl port).routes =
      router.routes.insert email (routeOfRequest email hostOrUrl port) := rfl

@[simp]
theorem updateRoute_routesFile (router : ProfileRouter) (email hostOrUrl : Text) (port : UInt16) :
    (updateRoute .done router email hostOrUrl port).routesFile =
      some (renderRoutes (router.routes.insert email (routeOfRequest email hostOrUrl port))) := rfl

end AimailBridge
