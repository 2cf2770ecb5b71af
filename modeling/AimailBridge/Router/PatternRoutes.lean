import AimailBridge.Router.Reload

/-!
# Routes of patterns

The value of a pattern entry is read into a route, of which the pattern keeps the host and the port
only; a lookup makes a new route from these.  The target comes out as configured exactly for the
values that name the default endpoint of their host and port.
-/

namespace AimailBridge

open Foundation Text ProfileRoute ProfileRouter

/-- The router after some lookups, one after the other. -/
def ProfileRouter.lookups (regex : RegexCrate) (router : ProfileRouter) (emails : List Text) :
    ProfileRouter :=
  emails.foldl (fun router email => (lookup regex router email).2) router

/-! ## Endpoints that lookups rebuild -/

/-- A value that, if it is a URL, is `http://host:port/webhooks/amail-inbound`, with or without the
scheme. -/
def DefaultEndpoint (value : Text) : Prop :=
  IsUrl (trim value) → ∃ host port, '/' ∉ host ∧
    hostPort (hostColonPort host port) = (host, port) ∧
      (trim value = httpPrefix ++ (hostColonPort host port ++ defaultPath) ∨
        trim value = hostColonPort host port ++ defaultPath)

theorem defaultPath_eq : defaultPath = '/' :: "webhooks/amail-inbound".toList := rfl

/-- The default path is broken off at its front. -/
theorem breakAt_default {front : Text} (absent : '/' ∉ front) :
    breakAt '/' (front ++ defaultPath) = (front, defaultPath) :=
  breakAt_of_not_mem absent fun _ first => (Option.some.inj first).symm

theorem breakAt_hostColonPort {host : Text} (absent : '/' ∉ host) (port : UInt16) :
    (breakAt '/' (hostColonPort host port ++ defaultPath)).1 = hostColonPort host port := by
  rw [breakAt_default (slash_not_mem_hostColonPort absent port)]

/-- The default path has a single slash at its front, a scheme is followed by two. -/
theorem not_scheme_hostColonPort {host scheme : Text} (no_slash : '/' ∉ scheme)
    (absent : '/' ∉ host) (port : UInt16) :
    ¬ scheme ++ schemeSeparator <+: hostColonPort host port ++ defaultPath := by
  rintro ⟨rest, form⟩
  have no_slash_front : '/' ∉ scheme ++ [':'] := by simpa using no_slash
  have form : (scheme ++ [':']) ++ '/' :: '/' :: rest = hostColonPort host port ++ defaultPath := by
    simpa [schemeSeparator] using form
  have back := congrArg (fun text => (breakAt '/' text).2) form
  rw [breakAt_of_not_mem no_slash_front (by simp),
    breakAt_default (slash_not_mem_hostColonPort absent port)] at back
  simp [defaultPath_eq] at back

theorem urlRest_default {url host : Text} {port : UInt16} (absent : '/' ∉ host)
    (form : url = httpPrefix ++ (hostColonPort host port ++ defaultPath) ∨
      url = hostColonPort host port ++ defaultPath) :
    urlRest url = hostColonPort host port ++ defaultPath ∧ ¬ httpsPrefix <+: url := by
  have http_slashless : '/' ∉ ['h', 't', 't', 'p'] := by decide
  have https_slashless : '/' ∉ ['h', 't', 't', 'p', 's'] := by decide
  rcases form with rfl | rfl
  · refine ⟨by rw [urlRest, stripPrefix_append], ?_⟩
    rintro ⟨rest, same⟩
    simp [httpPrefix, httpsPrefix] at same
  · have no_http : stripPrefix httpPrefix (hostColonPort host port ++ defaultPath) = none :=
      stripPrefix_eq_none.mpr (not_scheme_hostColonPort http_slashless absent port)
    have no_https : stripPrefix httpsPrefix (hostColonPort host port ++ defaultPath) = none :=
      stripPrefix_eq_none.mpr (not_scheme_hostColonPort https_slashless absent port)
    exact ⟨by simp only [urlRest, no_http, no_https], stripPrefix_eq_none.mp no_https⟩

/-- A URL is read as the default endpoint of its own host and port exactly when it is written as
one. -/
theorem fromUrl_default_iff (key url : Text) :
    (fromUrl key url).targetUrl = defaultTarget (fromUrl key url).host (fromUrl key url).port ↔
      ∃ host port, '/' ∉ host ∧ hostPort (hostColonPort host port) = (host, port) ∧
        (trim url = httpPrefix ++ (hostColonPort host port ++ defaultPath) ∨
          trim url = hostColonPort host port ++ defaultPath) := by
  constructor
  · intro target
    have absent := slash_not_mem_host_fromUrl key url
    have parts : hostPort (breakAt '/' (urlRest (trim url))).1 =
        ((fromUrl key url).host, (fromUrl key url).port) := rfl
    generalize (fromUrl key url).host = host at target absent parts
    generalize (fromUrl key url).port = port at target parts
    rw [fromUrl_targetUrl, defaultTarget, urlScheme] at target
    split at target
    · simp [httpPrefix, schemeSeparator] at target
    · next not_https =>
        have rest : urlRest (trim url) = hostColonPort host port ++ defaultPath := by
          simpa [httpPrefix, schemeSeparator] using target
        rw [rest, breakAt_hostColonPort absent] at parts
        refine ⟨host, port, absent, parts, ?_⟩
        rcases urlRest_cases (trim url) with form | form | form
        · exact Or.inl (rest ▸ form)
        · exact absurd ⟨_, form.symm⟩ not_https
        · exact Or.inr (form.trans rest)
  · rintro ⟨host, port, absent, parts, form⟩
    obtain ⟨rest, not_https⟩ := urlRest_default absent form
    have read : hostPort (breakAt '/' (urlRest (trim url))).1 = (host, port) := by
      rw [rest, breakAt_hostColonPort absent, parts]
    have host_eq : (fromUrl key url).host = host := congrArg Prod.fst read
    have port_eq : (fromUrl key url).port = port := congrArg Prod.snd read
    rw [fromUrl_targetUrl, host_eq, port_eq, rest, urlScheme, if_neg not_https]
    simp [defaultTarget, httpPrefix, schemeSeparator]

/-- The route of an entry posts to the default endpoint of its host and port exactly when its value
names one. -/
theorem routeOfValue_default_iff {key value : Text} {route : ProfileRoute}
    (read : routeOfValue key value = some route) :
    route.targetUrl = defaultTarget route.host route.port ↔ DefaultEndpoint value := by
  simp only [routeOfValue] at read
  split at read
  · next url =>
      obtain rfl := Option.some.inj read
      rw [fromUrl_default_iff, trim_trim, DefaultEndpoint, imp_iff_right url]
  · next bare =>
      obtain ⟨⟨host, port⟩, _, rfl⟩ := Option.map_eq_some_iff.mp read
      exact iff_of_true rfl fun url => absurd url bare

/-! ## Repeated lookups -/

variable {fromStr : Text → Option (HashMap Text Text)} {regex : RegexCrate}
  {order : IterationOrder Text ProfileRoute}

theorem lookup_lookups (router : ProfileRouter) (earlier : List Text) (email : Text) :
    (lookup regex (lookups regex router earlier) email).1 = (lookup regex router email).1 := by
  induction earlier generalizing router with
  | nil => rfl
  | cons other earlier induction => exact (induction _).trans (lookup_lookup router other email)

/-- The pattern matches the email, and no other pattern of the file does. -/
def MatchedOnlyBy (fromStr : Text → Option (HashMap Text Text)) (regex : RegexCrate)
    (file key email : Text) : Prop :=
  regex.isMatch key email = true ∧
    ∀ other route, (loadRoutesFile fromStr (some file)).lookup other = some route →
      isRegexPattern other = true → regex.compiles other = true →
        regex.isMatch other email = true → other = key

/-- After a load, the only pattern that matches an email is the one a lookup finds. -/
theorem matchPatterns_load {file key email : Text} {route : ProfileRoute}
    (entry : (loadRoutesFile fromStr (some file)).lookup key = some route)
    (isRegex : isRegexPattern key = true) (compiled : regex.compiles key = true)
    (only : MatchedOnlyBy fromStr regex file key email) :
    matchPatterns regex (loadFromFile fromStr regex order (ProfileRouter.new (some file))) email =
      some { re := key, key, host := route.host, port := route.port } := by
  have member : { re := key, key, host := route.host, port := route.port } ∈
      (loadFromFile fromStr regex order (ProfileRouter.new (some file))).regexPatterns :=
    (mem_regexPatterns_load order).mpr ⟨key, route, entry, isRegex, compiled, rfl⟩
  rw [matchPatterns]
  cases found : (loadFromFile fromStr regex order
      (ProfileRouter.new (some file))).regexPatterns.find?
        fun pattern : RegexPattern => regex.isMatch pattern.re email with
  | none =>
      have missed := List.find?_eq_none.mp found _ member
      exact absurd only.1 missed
  | some pattern =>
      obtain ⟨other, other_route, other_entry, other_regex, other_compiled, rfl⟩ :=
        (mem_regexPatterns_load order).mp (List.mem_of_find?_eq_some found)
      have matching := List.find?_some found
      obtain rfl := only.2 other other_route other_entry other_regex other_compiled matching
      obtain rfl := Option.some.inj (other_entry.symm.trans entry)
      rfl

/-- For an email that has no entry of its own and that one pattern of the file matches, lookups
return the target of the pattern's entry, on the first lookup and on every later one, exactly when
its value names the default endpoint of its host and port. -/
theorem pattern_target_iff {file key value email : Text} {parsed : HashMap Text Text}
    {route : ProfileRoute} (parses : fromStr file = some parsed)
    (entry : parsed.lookup key = some value) (read : routeOfValue key value = some route)
    (isRegex : isRegexPattern key = true) (compiled : regex.compiles key = true)
    (no_entry : exactEntry fromStr file email = none)
    (only : MatchedOnlyBy fromStr regex file key email) (earlier : List Text) :
    targetOf regex (lookups regex
        (loadFromFile fromStr regex order (ProfileRouter.new (some file))) earlier) email =
        some route.targetUrl ↔
      DefaultEndpoint value := by
  have loaded : (loadRoutesFile fromStr (some file)).lookup key = some route := by
    rw [loadRoutesFile_lookup parses, entry]
    exact read
  have answer : (lookup regex
      (loadFromFile fromStr regex order (ProfileRouter.new (some file))) email).1 =
        some (ProfileRoute.new email route.host route.port) := by
    rw [lookup_eq, routes_lookup_load, no_entry, matchPatterns_load loaded isRegex compiled only]
    rfl
  rw [targetOf, lookup_lookups, answer, Option.map_some, new_targetUrl, Option.some.injEq, eq_comm]
  exact routeOfValue_default_iff read

theorem matchedOnlyBy_singleton {file key email : Text} {route : ProfileRoute}
    (single : loadRoutesFile fromStr (some file) = AList.singleton key route)
    (matching : regex.isMatch key email = true) : MatchedOnlyBy fromStr regex file key email := by
  refine ⟨matching, fun other other_route found _ _ _ => ?_⟩
  rw [single] at found
  exact List.mem_singleton.mp (AList.lookup_isSome.mp (Option.isSome_of_eq_some found))

/-- A file with one pattern, whose agents listen on a path of their own. -/
def hookFile : Text :=
  "\".*@x.org\" = \"https://10.0.0.7/hook\"".toList

/-- Mail for a pattern with an `https` URL is posted to another scheme, port and path. -/
theorem pattern_target_changed :
    ((loadRoutesFile Toml.fragment (some hookFile)).lookup ".*@x.org".toList).map targetUrl =
        some "https://10.0.0.7/hook".toList ∧
      exactEntry Toml.fragment hookFile "agent@x.org".toList = none ∧
      MatchedOnlyBy Toml.fragment RegexCrate.simple hookFile ".*@x.org".toList
        "agent@x.org".toList ∧
      targetOf RegexCrate.simple (loadFromFile Toml.fragment RegexCrate.simple (.inOrder _ _)
        (ProfileRouter.new (some hookFile))) "agent@x.org".toList =
          some "http://10.0.0.7:80/webhooks/amail-inbound".toList := by
  have single : loadRoutesFile Toml.fragment (some hookFile) = AList.singleton ".*@x.org".toList
      (fromUrl ".*@x.org".toList "https://10.0.0.7/hook".toList) :=
    AList.ext (by decide)
  exact ⟨by decide, by decide, matchedOnlyBy_singleton single (by decide), by decide⟩

/-- Mail for a pattern with a bare endpoint is posted there, also after other lookups. -/
theorem pattern_target_kept :
    targetOf RegexCrate.simple (lookups RegexCrate.simple
        (loadFromFile Toml.fragment RegexCrate.simple (.inOrder _ _)
          (ProfileRouter.new (some patternFile)))
        ["agent@x.org".toList, "other@x.org".toList]) "agent@x.org".toList =
      some "http://10.0.0.7:8645/webhooks/amail-inbound".toList := by
  have single : loadRoutesFile Toml.fragment (some patternFile) =
      AList.singleton ".*@x.org".toList
        (ProfileRoute.new ".*@x.org".toList "10.0.0.7".toList 8645) :=
    AList.ext (by decide)
  have bare : DefaultEndpoint "10.0.0.7:8645".toList := fun url => absurd url (by decide)
  exact (@pattern_target_iff Toml.fragment RegexCrate.simple (.inOrder _ _) patternFile
    ".*@x.org".toList "10.0.0.7:8645".toList "agent@x.org".toList _
    (ProfileRoute.new ".*@x.org".toList "10.0.0.7".toList 8645) rfl (by decide) (by decide)
    (by decide) (by decide) (by decide) (matchedOnlyBy_singleton single (by decide)) _).mpr bare

end AimailBridge
