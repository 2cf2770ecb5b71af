import AimailBridge.Router.PatternRoutes
import AimailBridge.Router.Restart

/-!
# What a file alone determines

A load walks the entries of a hash map, and the order of that walk is the order in which lookups try
the patterns.  A file therefore determines the answer for an email exactly when the email has an
entry of its own, or all patterns of the file that match it lead to one endpoint.
-/

namespace AimailBridge

open Foundation Text ProfileRoute ProfileRouter

variable {fromStr : Text → Option (HashMap Text Text)} {regex : RegexCrate}

/-- What two loads of one file answer for an email is the same, whatever order each of them meets
the entries in, whatever was in memory before it and whatever was looked up since. -/
def DeterminedBy (fromStr : Text → Option (HashMap Text Text)) (regex : RegexCrate)
    (file email : Text) : Prop :=
  ∀ (first second : ProfileRouter) (order otherOrder : IterationOrder Text ProfileRoute)
    (earlier otherEarlier : List Text),
    first.routesFile = some file → second.routesFile = some file →
      (lookup regex (lookups regex (loadFromFile fromStr regex order first) earlier) email).1 =
        (lookup regex (lookups regex (loadFromFile fromStr regex otherOrder second) otherEarlier)
          email).1

/-- The entry of the file is a pattern, and it matches the email. -/
structure MatchingEntry (fromStr : Text → Option (HashMap Text Text)) (regex : RegexCrate)
    (file email key : Text) (route : ProfileRoute) : Prop where
  /-- The file has the entry. -/
  entry : (loadRoutesFile fromStr (some file)).lookup key = some route
  /-- Its key has a regex character. -/
  isRegex : isRegexPattern key = true
  /-- Its key is a regular expression. -/
  compiled : regex.compiles key = true
  /-- It matches the email. -/
  matching : regex.isMatch key email = true

/-- All patterns of the file that match the email lead to one host and port. -/
def PatternsAgree (fromStr : Text → Option (HashMap Text Text)) (regex : RegexCrate)
    (file email : Text) : Prop :=
  ∀ key other route otherRoute, MatchingEntry fromStr regex file email key route →
    MatchingEntry fromStr regex file email other otherRoute →
      route.host = otherRoute.host ∧ route.port = otherRoute.port

section Loads

variable {order : IterationOrder Text ProfileRoute} {reader : ProfileRouter}
  {file email : Text} {route : ProfileRoute}

/-- The pattern that a lookup finds after a load is an entry of the file. -/
theorem matchingEntry_of_matchPatterns (same_file : reader.routesFile = some file)
    {pattern : RegexPattern}
    (found : matchPatterns regex (loadFromFile fromStr regex order reader) email = some pattern) :
    ∃ key route, MatchingEntry fromStr regex file email key route ∧
      pattern = { re := key, key, host := route.host, port := route.port } := by
  obtain ⟨key, route, entry, isRegex, compiled, rfl⟩ :=
    (mem_regexPatterns_load order).mp (List.mem_of_find?_eq_some found)
  rw [same_file] at entry
  exact ⟨key, route, ⟨entry, isRegex, compiled, by simpa using List.find?_some found⟩, rfl⟩

/-- A pattern of the file that matches an email makes every load find one. -/
theorem matchPatterns_isSome (order : IterationOrder Text ProfileRoute)
    (same_file : reader.routesFile = some file) {key : Text}
    (pattern_entry : MatchingEntry fromStr regex file email key route) :
    (matchPatterns regex (loadFromFile fromStr regex order reader) email).isSome := by
  have member : { re := key, key, host := route.host, port := route.port } ∈
      (loadFromFile fromStr regex order reader).regexPatterns :=
    (mem_regexPatterns_load order).mpr
      ⟨key, route, same_file ▸ pattern_entry.entry, pattern_entry.isRegex, pattern_entry.compiled,
        rfl⟩
  rw [matchPatterns, List.find?_isSome]
  exact ⟨_, member, pattern_entry.matching⟩

/-- An email with an entry of its own is answered from it. -/
theorem lookup_load_exact (same_file : reader.routesFile = some file)
    (own : exactEntry fromStr file email = some route) (earlier : List Text) :
    (lookup regex (lookups regex (loadFromFile fromStr regex order reader) earlier) email).1 =
      some route := by
  have served : (loadFromFile fromStr regex order reader).routes.lookup email = some route := by
    rw [loadFromFile_routes_lookup, same_file]
    exact own
  rw [lookup_lookups, lookup_exact served]

/-- Any other email is answered from the pattern that is found first. -/
theorem lookup_load_pattern (same_file : reader.routesFile = some file)
    (own : exactEntry fromStr file email = none) (earlier : List Text) :
    (lookup regex (lookups regex (loadFromFile fromStr regex order reader) earlier) email).1 =
      (matchPatterns regex (loadFromFile fromStr regex order reader) email).map fun pattern =>
        ProfileRoute.new email pattern.host pattern.port := by
  have missing : (loadFromFile fromStr regex order reader).routes.lookup email = none := by
    rw [loadFromFile_routes_lookup, same_file]
    exact own
  rw [lookup_lookups, lookup_eq, missing, Option.none_or]

/-- The load that meets a matching entry first answers with its endpoint. -/
theorem lookup_load_startingWith {key : Text}
    (own : exactEntry fromStr file email = none)
    (pattern_entry : MatchingEntry fromStr regex file email key route) :
    (lookup regex (lookups regex (loadFromFile fromStr regex (startingWith ⟨key, route⟩)
      (ProfileRouter.new (some file))) []) email).1 =
        some (ProfileRoute.new email route.host route.port) := by
  rw [lookup_load_pattern rfl own,
    matchPatterns_load_startingWith pattern_entry.entry pattern_entry.isRegex
      pattern_entry.compiled pattern_entry.matching]
  rfl

/-- Patterns that agree make all loads answer alike, whichever of them is found first. -/
theorem answers_agree (agree : PatternsAgree fromStr regex file email) {other : ProfileRouter}
    (order otherOrder : IterationOrder Text ProfileRoute)
    (reader_file : reader.routesFile = some file) (other_file : other.routesFile = some file) :
    ((matchPatterns regex (loadFromFile fromStr regex order reader) email).map fun pattern =>
        ProfileRoute.new email pattern.host pattern.port) =
      (matchPatterns regex (loadFromFile fromStr regex otherOrder other) email).map fun pattern =>
        ProfileRoute.new email pattern.host pattern.port := by
  cases found : matchPatterns regex (loadFromFile fromStr regex order reader) email with
  | some pattern =>
      obtain ⟨key, route, pattern_entry, rfl⟩ := matchingEntry_of_matchPatterns reader_file found
      obtain ⟨otherPattern, other_found⟩ :=
        Option.isSome_iff_exists.mp (matchPatterns_isSome otherOrder other_file pattern_entry)
      obtain ⟨otherKey, otherRoute, other_entry, rfl⟩ :=
        matchingEntry_of_matchPatterns other_file other_found
      obtain ⟨host, port⟩ := agree key otherKey route otherRoute pattern_entry other_entry
      rw [other_found, Option.map_some, Option.map_some, host, port]
  | none =>
      cases other_found :
          matchPatterns regex (loadFromFile fromStr regex otherOrder other) email with
      | none => rfl
      | some pattern =>
          obtain ⟨key, route, pattern_entry, _⟩ :=
            matchingEntry_of_matchPatterns other_file other_found
          have some_found := matchPatterns_isSome order reader_file pattern_entry
          simp [found] at some_found

end Loads

/-- A file determines the answer for an email exactly when the email has an entry of its own, or the
patterns that match it agree. -/
theorem determinedBy_iff (fromStr : Text → Option (HashMap Text Text)) (regex : RegexCrate)
    (file email : Text) :
    DeterminedBy fromStr regex file email ↔
      (exactEntry fromStr file email).isSome ∨ PatternsAgree fromStr regex file email := by
  cases own : exactEntry fromStr file email with
  | some route =>
      refine iff_of_true ?_ (Or.inl rfl)
      intro first second order otherOrder earlier otherEarlier first_file second_file
      rw [lookup_load_exact first_file own, lookup_load_exact second_file own]
  | none =>
      rw [Option.isSome_none, Bool.false_eq_true, false_or]
      constructor
      · -- each of two entries can be the one that is met first
        intro determined key other route otherRoute pattern_entry other_entry
        have same := determined (ProfileRouter.new (some file)) (ProfileRouter.new (some file))
          (startingWith ⟨key, route⟩) (startingWith ⟨other, otherRoute⟩) [] [] rfl rfl
        rw [lookup_load_startingWith own pattern_entry, lookup_load_startingWith own other_entry,
          Option.some.injEq] at same
        have host := congrArg ProfileRoute.host same
        have port := congrArg ProfileRoute.port same
        exact ⟨by simpa using host, by simpa using port⟩
      · intro agree first second order otherOrder earlier otherEarlier first_file second_file
        rw [lookup_load_pattern first_file own, lookup_load_pattern second_file own]
        exact answers_agree agree order otherOrder first_file second_file

/-- A file with a pattern for a domain and one for a kind of address. -/
def overlappingFile : Text :=
  "\".*@x.org\" = \"10.0.0.7:8645\"\n\"bot.*\" = \"10.0.0.8:8645\"".toList

/-- Mail for an address that both patterns match goes to either agent, as the walk happens to
fall. -/
theorem overlapping_patterns_undetermined :
    ¬ DeterminedBy Toml.fragment RegexCrate.simple overlappingFile "bot@x.org".toList := by
  intro determined
  have same := determined (ProfileRouter.new (some overlappingFile))
    (ProfileRouter.new (some overlappingFile)) (.inOrder _ _)
    (startingWith ⟨".*@x.org".toList, ProfileRoute.new ".*@x.org".toList "10.0.0.7".toList 8645⟩)
    [] [] rfl rfl
  exact absurd same (by decide)

end AimailBridge
