import AimailBridge.Foundation.Text

/-!
# Routes and their textual forms

A route names the endpoint one agent listens on.  It is built from a full URL or from a host and a
port, written to the routes file as a URL or as `host:port`, and read back by one of two parsers.
The last section says exactly which routes the written form gives back.
-/

namespace AimailBridge

open Foundation Text

/-- A single routing entry. -/
structure ProfileRoute where
  /-- Address the entry is for. -/
  email : Text
  /-- Host as listed by the admin API. -/
  host : Text
  /-- Port as listed by the admin API. -/
  port : UInt16
  /-- URL that requests for the address are posted to. -/
  targetUrl : Text
  deriving DecidableEq

/-- `http://`, which also marks the targets that may be shortened. -/
def httpPrefix : Text := ['h', 't', 't', 'p', ':', '/', '/']

/-- `https://`. -/
def httpsPrefix : Text := ['h', 't', 't', 'p', 's', ':', '/', '/']

/-- `://`, between a scheme and what follows it. -/
def schemeSeparator : Text := [':', '/', '/']

/-- Path of an endpoint that was given as `host:port` only. -/
def defaultPath : Text := "/webhooks/amail-inbound".toList

/-- `host:port`. -/
def hostColonPort (host : Text) (port : UInt16) : Text :=
  host ++ ':' :: decimal port.toNat

/-- The URL of an endpoint that was given as `host:port` only. -/
def defaultTarget (host : Text) (port : UInt16) : Text :=
  httpPrefix ++ hostColonPort host port ++ defaultPath

namespace ProfileRoute

/-- The scheme `from_url` keeps. -/
def urlScheme (url : Text) : Text :=
  if httpsPrefix <+: url then ['h', 't', 't', 'p', 's'] else ['h', 't', 't', 'p']

/-- What follows the scheme; a text without one is taken as it is. -/
def urlRest (url : Text) : Text :=
  match stripPrefix httpPrefix url with
  | some rest => rest
  | none =>
      match stripPrefix httpsPrefix url with
      | some rest => rest
      | none => url

/-- Host and port of an authority, with port 80 for a missing or malformed one. -/
def hostPort (authority : Text) : Text × UInt16 :=
  match stripPrefix ['['] authority with
  | some b =>
      match splitOnce [']', ':'] b with
      | some (h, p) => ('[' :: h ++ [']'], (parseU16 p).getD 80)
      | none => ('[' :: trimEndMatches ']' b ++ [']'], 80)
  | none =>
      match rsplitOnce ':' authority with
      | some (h, p) => (h, (parseU16 p).getD 80)
      | none => (authority, 80)

/-- Build a route from a full URL; the path is kept verbatim. -/
def fromUrl (email url : Text) : ProfileRoute :=
  let url := trim url
  let (authority, path) := breakAt '/' (urlRest url)
  let (host, port) := hostPort authority
  { email, host, port, targetUrl := urlScheme url ++ schemeSeparator ++ authority ++ path }

/-- Build a route from a host and a port. -/
def new (email host : Text) (port : UInt16) : ProfileRoute :=
  { email, host, port, targetUrl := defaultTarget host port }

end ProfileRoute

namespace ProfileRouter

/-- Parse `host:port`; a bare port means the local host, a bare host port 8645. -/
def parseAddr (s : Text) : Option (Text × UInt16) :=
  let s := trim s
  if s = [] then none
  else
    match stripPrefix ['['] s with
    | some rest =>
        (splitOnce [']', ':'] rest).bind fun (addr, portStr) =>
          (parseU16 portStr).map fun port => ('[' :: addr ++ [']'], port)
    | none =>
        match (rsplitOnce ':' s).bind fun (host, portStr) => (parseU16 portStr).map (host, ·) with
        | some found => some found
        | none =>
            match parseU16 s with
            | some port => some ("127.0.0.1".toList, port)
            | none => some (s, 8645)

/-- Whether a value is read as a URL. -/
def IsUrl (value : Text) : Prop :=
  '/' ∈ value ∨ schemeSeparator <:+: value

instance (value : Text) : Decidable (IsUrl value) :=
  inferInstanceAs (Decidable ('/' ∈ value ∨ schemeSeparator <:+: value))

/-- The route `load_routes_file` builds from one entry. -/
def routeOfValue (key value : Text) : Option ProfileRoute :=
  let value := trim value
  if IsUrl value then some (ProfileRoute.fromUrl key value)
  else (parseAddr value).map fun (host, port) => ProfileRoute.new key host port

/-- The route `update_route` installs. -/
def routeOfRequest (email hostOrUrl : Text) (port : UInt16) : ProfileRoute :=
  if IsUrl hostOrUrl then ProfileRoute.fromUrl email hostOrUrl
  else ProfileRoute.new email hostOrUrl port

/-- The test by which `write_current_routes` drops the path of a target. -/
def Shortened (route : ProfileRoute) : Prop :=
  defaultPath <:+ route.targetUrl ∧
    httpPrefix ++ hostColonPort route.host route.port <+: route.targetUrl

instance (route : ProfileRoute) : Decidable (Shortened route) :=
  inferInstanceAs (Decidable (defaultPath <:+ route.targetUrl ∧
    httpPrefix ++ hostColonPort route.host route.port <+: route.targetUrl))

/-- The value `write_current_routes` writes for a route. -/
def persistedValue (route : ProfileRoute) : Text :=
  if Shortened route then hostColonPort route.host route.port else route.targetUrl

end ProfileRouter

open ProfileRoute ProfileRouter

/-! ## Reading a URL -/

@[simp] theorem new_email (email host : Text) (port : UInt16) :
    (new email host port).email = email := rfl

@[simp] theorem new_host (email host : Text) (port : UInt16) : (new email host port).host = host :=
  rfl

@[simp] theorem new_port (email host : Text) (port : UInt16) : (new email host port).port = port :=
  rfl

/-- A route with the default target is the one made of its email, host and port. -/
theorem new_of_targetUrl {route : ProfileRoute}
    (target : route.targetUrl = defaultTarget route.host route.port) :
    new route.email route.host route.port = route := by
  calc
    new route.email route.host route.port =
        ⟨route.email, route.host, route.port, defaultTarget route.host route.port⟩ := rfl
    _ = ⟨route.email, route.host, route.port, route.targetUrl⟩ := by rw [target]

@[simp] theorem new_targetUrl (email host : Text) (port : UInt16) :
    (new email host port).targetUrl = defaultTarget host port := rfl

theorem isUrl_iff {value : Text} : IsUrl value ↔ '/' ∈ value := by
  constructor
  · rintro (slash | ⟨front, back, rfl⟩)
    · exact slash
    · simp [schemeSeparator]
  · exact Or.inl

@[simp]
theorem routeOfRequest_email (email hostOrUrl : Text) (port : UInt16) :
    (routeOfRequest email hostOrUrl port).email = email := by
  rw [routeOfRequest]
  split <;> rfl

theorem fromUrl_targetUrl (email url : Text) :
    (fromUrl email url).targetUrl =
      urlScheme (trim url) ++ schemeSeparator ++ urlRest (trim url) := by
  simp only [fromUrl, List.append_assoc, breakAt_append]

theorem urlRest_cases (url : Text) :
    url = httpPrefix ++ urlRest url ∨ url = httpsPrefix ++ urlRest url ∨ url = urlRest url := by
  cases http : stripPrefix httpPrefix url with
  | some rest =>
      left
      simp only [urlRest, http]
      exact stripPrefix_eq_some.mp http
  | none =>
      right
      cases https : stripPrefix httpsPrefix url with
      | some rest =>
          left
          simp only [urlRest, http, https]
          exact stripPrefix_eq_some.mp https
      | none =>
          right
          simp only [urlRest, http, https]

/-- The scheme and the rest of a target are those of the URL it was built from. -/
theorem urlRest_target (url rest : Text) :
    urlRest (urlScheme url ++ schemeSeparator ++ rest) = rest ∧
      urlScheme (urlScheme url ++ schemeSeparator ++ rest) = urlScheme url := by
  rw [urlScheme]
  split
  · have form : ['h', 't', 't', 'p', 's'] ++ schemeSeparator ++ rest = httpsPrefix ++ rest := by
      simp [httpsPrefix, schemeSeparator]
    have not_http : stripPrefix httpPrefix (httpsPrefix ++ rest) = none := by
      rw [stripPrefix_eq_none]
      rintro ⟨back, same⟩
      simp [httpPrefix, httpsPrefix] at same
    rw [form]
    exact ⟨by simp [urlRest, not_http], by simp [urlScheme]⟩
  · have form : ['h', 't', 't', 'p'] ++ schemeSeparator ++ rest = httpPrefix ++ rest := by
      simp [httpPrefix, schemeSeparator]
    have not_https : ¬ httpsPrefix <+: httpPrefix ++ rest := by
      rintro ⟨back, same⟩
      simp [httpPrefix, httpsPrefix] at same
    rw [form]
    exact ⟨by simp [urlRest], by simp [urlScheme, not_https]⟩

theorem not_endsBlank_target (url : Text) :
    ¬ endsBlank (urlScheme (trim url) ++ schemeSeparator ++ urlRest (trim url)) := by
  by_cases empty : urlRest (trim url) = []
  · rw [empty, List.append_nil, endsBlank_append (by decide)]
    rintro ⟨c, last, blank⟩
    obtain rfl : '/' = c := by simpa [schemeSeparator] using last
    exact absurd blank (by decide)
  · rw [endsBlank_append empty]
    have tight := not_endsBlank_trim url
    rcases urlRest_cases (trim url) with form | form | form
    · rwa [form, endsBlank_append empty] at tight
    · rwa [form, endsBlank_append empty] at tight
    · rwa [form] at tight

theorem not_startsBlank_target (url rest : Text) :
    ¬ startsBlank (urlScheme url ++ schemeSeparator ++ rest) := by
  rw [urlScheme]
  split <;> rw [List.cons_append, List.cons_append, startsBlank_cons] <;> decide

@[simp]
theorem trim_targetUrl_fromUrl (email url : Text) :
    trim (fromUrl email url).targetUrl = (fromUrl email url).targetUrl := by
  rw [fromUrl_targetUrl]
  exact trim_of_tight (not_startsBlank_target _ _) (not_endsBlank_target url)

/-- Reading the target of a URL route builds the same endpoint again. -/
theorem fromUrl_targetUrl_fromUrl (key email url : Text) :
    fromUrl key (fromUrl email url).targetUrl = { fromUrl email url with email := key } := by
  have same := urlRest_target (trim url) (urlRest (trim url))
  rw [fromUrl, trim_targetUrl_fromUrl, fromUrl_targetUrl, same.1, same.2]
  rfl

theorem slash_mem_targetUrl_fromUrl (email url : Text) :
    '/' ∈ (fromUrl email url).targetUrl := by
  simp [fromUrl_targetUrl, schemeSeparator]

/-- An unshortened target is read back as the endpoint it was written for. -/
theorem routeOfValue_targetUrl_fromUrl (email url : Text) :
    routeOfValue email (fromUrl email url).targetUrl = some (fromUrl email url) := by
  have url_read : IsUrl (fromUrl email url).targetUrl :=
    Or.inl (slash_mem_targetUrl_fromUrl email url)
  simp only [routeOfValue, trim_targetUrl_fromUrl, if_pos url_read, fromUrl_targetUrl_fromUrl]
  rfl

/-! ## Hosts -/

theorem mem_hostPort {authority : Text} {c : Char} (member : c ∈ (hostPort authority).1)
    (not_open : c ≠ '[') (not_close : c ≠ ']') : c ∈ authority := by
  rw [hostPort] at member
  split at member
  · next b stripped =>
      rw [stripPrefix_eq_some.mp stripped]
      split at member
      · next h p split =>
          rw [splitOnce_eq_some_append split]
          have inside : c ∈ h := by simpa [not_open, not_close] using member
          simp [inside]
      · have inside : c ∈ trimEndMatches ']' b := by simpa [not_open, not_close] using member
        have prefix_b := List.rdropWhile_prefix (fun x => decide (x = ']')) b
        exact List.mem_append_right _ (prefix_b.subset inside)
  · split at member
    · next h p split =>
        rw [(rsplitOnce_eq_some.mp split).1]
        exact List.mem_append_left _ member
    · exact member

theorem slash_not_mem_host_fromUrl (email url : Text) : '/' ∉ (fromUrl email url).host := by
  intro member
  have inside : '/' ∈ (breakAt '/' (urlRest (trim url))).1 :=
    mem_hostPort member (by decide) (by decide)
  exact breakAt_front '/' _ inside

theorem slash_not_mem_host (email hostOrUrl : Text) (port : UInt16) :
    '/' ∉ (routeOfRequest email hostOrUrl port).host := by
  rw [routeOfRequest]
  split
  · exact slash_not_mem_host_fromUrl email hostOrUrl
  · next bare => exact fun member => bare (isUrl_iff.mpr member)

theorem slash_not_mem_hostColonPort {host : Text} (absent : '/' ∉ host) (port : UInt16) :
    '/' ∉ hostColonPort host port := by
  simp [hostColonPort, absent, not_mem_decimal]

/-! ## Reading `host:port` -/

/-- A host that `parse_addr` gives back: it starts with no blank, and when it opens a bracket it is
one bracketed literal. -/
def ReadableHost (host : Text) : Prop :=
  ¬ startsBlank host ∧
    (host.head? = some '[' → ∃ addr, host = '[' :: addr ++ [']'] ∧ ¬ [']', ':'] <:+: addr)

theorem trim_hostColonPort (host : Text) (port : UInt16) :
    trim (hostColonPort host port) = hostColonPort (host.dropWhile isWhitespace) port := by
  have front : (hostColonPort host port).dropWhile isWhitespace =
      hostColonPort (host.dropWhile isWhitespace) port := by
    have colon : isWhitespace ':' = false := by decide
    rw [hostColonPort, List.dropWhile_append, List.dropWhile_cons_of_neg (by simp [colon])]
    split
    · next empty => simp [hostColonPort, List.isEmpty_iff.mp empty]
    · rfl
  rw [trim, front]
  refine rdropWhile_of_not_endsBlank ?_
  have form : hostColonPort (host.dropWhile isWhitespace) port =
      (host.dropWhile isWhitespace ++ [':']) ++ decimal port.toNat := by
    simp [hostColonPort]
  rw [form]
  exact not_endsBlank_decimal _ _

theorem dropWhile_eq_self_iff {host : Text} :
    host.dropWhile isWhitespace = host ↔ ¬ startsBlank host := by
  constructor
  · intro same
    exact same ▸ not_startsBlank_dropWhile host
  · exact dropWhile_of_not_startsBlank

theorem parseAddr_bracketed {addr : Text} (single : ¬ [']', ':'] <:+: addr) (port : UInt16) :
    parseAddr (hostColonPort ('[' :: addr ++ [']']) port) = some ('[' :: addr ++ [']'], port) := by
  have tight : ¬ startsBlank ('[' :: addr ++ [']']) := by
    rw [List.cons_append, startsBlank_cons]
    decide
  have split : splitOnce [']', ':'] (addr ++ [']', ':'] ++ decimal port.toNat) =
      some (addr, decimal port.toNat) := splitOnce_pair (by decide) single
  rw [parseAddr, trim_hostColonPort, dropWhile_of_not_startsBlank tight]
  simp only [hostColonPort, List.cons_append, List.append_assoc, List.nil_append] at split ⊢
  rw [if_neg (by simp), show '[' :: (addr ++ ']' :: ':' :: decimal port.toNat) =
      ['['] ++ (addr ++ ']' :: ':' :: decimal port.toNat) from rfl, stripPrefix_append]
  simp [split]

theorem parseAddr_unbracketed {host : Text}
    (unopened : (host.dropWhile isWhitespace).head? ≠ some '[') (port : UInt16) :
    parseAddr (hostColonPort host port) = some (host.dropWhile isWhitespace, port) := by
  have missing : stripPrefix ['['] (hostColonPort (host.dropWhile isWhitespace) port) = none := by
    rw [stripPrefix_eq_none]
    rintro ⟨rest, form⟩
    cases trimmed : host.dropWhile isWhitespace with
    | nil => simp [hostColonPort, trimmed] at form
    | cons c cs =>
        rw [trimmed] at form unopened
        simp only [hostColonPort, List.cons_append, List.nil_append, List.cons.injEq] at form
        exact unopened (by rw [← form.1]; rfl)
  have split : rsplitOnce ':' (hostColonPort (host.dropWhile isWhitespace) port) =
      some (host.dropWhile isWhitespace, decimal port.toNat) :=
    rsplitOnce_append (not_mem_decimal (by decide)) _
  rw [parseAddr, trim_hostColonPort]
  simp only [missing, split, Option.bind_some, parseU16_decimal, Option.map_some]
  rw [if_neg (by simp [hostColonPort])]

/-- What is read from an opened bracket ends with the bracket that closes it: the port that was
written last has no colon, so the bracket stands right before it. -/
theorem parseAddr_opened {host rest read_host : Text} {port read_port : UInt16}
    (trimmed : host.dropWhile isWhitespace = '[' :: rest)
    (read : parseAddr (hostColonPort host port) = some (read_host, read_port)) :
    read_host = '[' :: rest ∧ read_port = port ∧ ∃ addr, rest = addr ++ [']'] ∧
      ¬ [']', ':'] <:+: addr := by
  have strip : stripPrefix ['['] (hostColonPort ('[' :: rest) port) =
      some (hostColonPort rest port) := stripPrefix_append ['['] (hostColonPort rest port)
  rw [parseAddr, trim_hostColonPort, trimmed] at read
  simp only [strip] at read
  rw [if_neg (by simp [hostColonPort])] at read
  obtain ⟨⟨addr, portStr⟩, split, mapped⟩ := Option.bind_eq_some_iff.mp read
  obtain ⟨number, parsed, same⟩ := Option.map_eq_some_iff.mp mapped
  obtain ⟨rfl, rfl⟩ := Prod.mk.inj same
  have no_colon : ':' ∉ portStr := by
    intro member
    simp [parseU16_eq_none_of_mem member (by decide) (by decide)] at parsed
  have written : rsplitOnce ':' (hostColonPort rest port) = some (rest, decimal port.toNat) :=
    rsplitOnce_append (not_mem_decimal (by decide)) rest
  have found : rsplitOnce ':' (hostColonPort rest port) = some (addr ++ [']'], portStr) := by
    rw [splitOnce_eq_some_append split]
    simpa using rsplitOnce_append no_colon (addr ++ [']'])
  rw [written] at found
  obtain ⟨rfl, rfl⟩ := Prod.mk.inj (Option.some.inj found)
  rw [parseU16_decimal, Option.some.injEq] at parsed
  exact ⟨rfl, parsed.symm, addr, rfl, splitOnce_front (by simp) split⟩

/-- Whatever is read from the `host:port` form is the host without its leading blanks, and the
port. -/
theorem parseAddr_hostColonPort {host read_host : Text} {port read_port : UInt16}
    (read : parseAddr (hostColonPort host port) = some (read_host, read_port)) :
    read_host = host.dropWhile isWhitespace ∧ read_port = port := by
  by_cases opened : (host.dropWhile isWhitespace).head? = some '['
  · obtain ⟨rest, trimmed⟩ := List.head?_eq_some_iff.mp opened
    obtain ⟨rfl, rfl, _⟩ := parseAddr_opened trimmed read
    exact ⟨trimmed.symm, rfl⟩
  · rw [parseAddr_unbracketed opened, Option.some.injEq, Prod.mk.injEq] at read
    exact ⟨read.1.symm, read.2.symm⟩

/-- `parse_addr` inverts the `host:port` form exactly for the readable hosts. -/
theorem parseAddr_hostColonPort_iff (host : Text) (port : UInt16) :
    parseAddr (hostColonPort host port) = some (host, port) ↔ ReadableHost host := by
  constructor
  · intro read
    have trimmed := (parseAddr_hostColonPort read).1
    refine ⟨dropWhile_eq_self_iff.mp trimmed.symm, fun opened => ?_⟩
    obtain ⟨rest, form⟩ := List.head?_eq_some_iff.mp opened
    obtain ⟨_, _, addr, rfl, single⟩ := parseAddr_opened (trimmed.symm.trans form) read
    exact ⟨addr, form, single⟩
  · intro readable
    obtain ⟨tight, bracketed⟩ := readable
    by_cases opened : host.head? = some '['
    · obtain ⟨addr, rfl, single⟩ := bracketed opened
      exact parseAddr_bracketed single port
    · rw [parseAddr_unbracketed] <;> rw [dropWhile_of_not_startsBlank tight]
      exact opened

/-! ## Writing and reading back -/

/-- The routes whose written form is read back as the same route: when the target runs from
`http://host:port` to the default path, there is nothing in between and the host is readable. -/
def Recoverable (route : ProfileRoute) : Prop :=
  ∀ between, route.targetUrl =
      httpPrefix ++ hostColonPort route.host route.port ++ between ++ defaultPath →
    between = [] ∧ ReadableHost route.host

theorem getLast_hostColonPort (host : Text) (port : UInt16) {front part : Text}
    (split : httpPrefix ++ hostColonPort host port = front ++ part) (nonempty : part ≠ []) :
    (part.getLast nonempty).isDigit = true := by
  have whole : front ++ part = httpPrefix ++ host ++ [':'] ++ decimal port.toNat := by
    simp [← split, hostColonPort]
  have last : part.getLast nonempty = (decimal port.toNat).getLast (decimal_ne_nil _) := by
    rw [← List.getLast_append_of_ne_nil (l := front) (by simp [nonempty]) nonempty,
      ← List.getLast_append_of_ne_nil (l := httpPrefix ++ host ++ [':']) (by simp)
        (decimal_ne_nil _)]
    congr 1
  rw [last]
  exact isDigit_of_mem_decimal (List.getLast_mem _)

/-- The two tests of the writer find a target that runs from `http://host:port` to the default
path: the tests cannot overlap, because the default path has no digit. -/
theorem shortened_iff {route : ProfileRoute} :
    Shortened route ↔ ∃ between, route.targetUrl =
      httpPrefix ++ hostColonPort route.host route.port ++ between ++ defaultPath := by
  constructor
  · rintro ⟨⟨back, ends⟩, ⟨tail, starts⟩⟩
    rw [← starts]
    rcases List.append_eq_append_iff.mp (ends.trans starts.symm) with
      ⟨overlap, front, rest⟩ | ⟨between, _, rest⟩
    · by_cases empty : overlap = []
      · subst empty
        exact ⟨[], by simp [rest]⟩
      · have digit := getLast_hostColonPort route.host route.port front empty
        have inside : overlap.getLast empty ∈ defaultPath := by
          rw [rest]
          exact List.mem_append_left _ (List.getLast_mem empty)
        have no_digit : defaultPath.all (fun c => !c.isDigit) = true := by decide
        simpa [digit] using List.all_eq_true.mp no_digit _ inside
    · exact ⟨between, by simp [rest]⟩
  · rintro ⟨between, form⟩
    rw [Shortened, form]
    exact ⟨⟨_, rfl⟩, ⟨between ++ defaultPath, by simp⟩⟩

theorem recoverable_iff {route : ProfileRoute} :
    Recoverable route ↔ (Shortened route →
      route.targetUrl = defaultTarget route.host route.port ∧ ReadableHost route.host) := by
  constructor
  · intro recoverable short
    obtain ⟨between, form⟩ := shortened_iff.mp short
    obtain ⟨rfl, readable⟩ := recoverable between form
    exact ⟨by simpa [defaultTarget] using form, readable⟩
  · intro exact_form between form
    obtain ⟨target, readable⟩ := exact_form (shortened_iff.mpr ⟨between, form⟩)
    refine ⟨?_, readable⟩
    rw [target, defaultTarget, List.append_cancel_right_eq] at form
    simpa using form

theorem shortened_new (email host : Text) (port : UInt16) : Shortened (new email host port) :=
  shortened_iff.mpr ⟨[], by simp [defaultTarget]⟩

theorem parseAddr_trim (s : Text) : parseAddr (trim s) = parseAddr s := by
  rw [parseAddr, parseAddr, trim_trim]

/-- What is read back from the shortened form of a route. -/
theorem routeOfValue_hostColonPort {host : Text} (absent : '/' ∉ host) (key : Text)
    (port : UInt16) :
    routeOfValue key (hostColonPort host port) =
      (parseAddr (hostColonPort host port)).map fun (host, port) => new key host port := by
  have bare : ¬ IsUrl (trim (hostColonPort host port)) := by
    rw [isUrl_iff, trim_hostColonPort]
    refine slash_not_mem_hostColonPort (fun member => absent ?_) port
    exact (List.dropWhile_suffix isWhitespace).subset member
  rw [routeOfValue]
  simp only [if_neg bare, parseAddr_trim]

theorem routeOfRequest_of_not_shortened {email hostOrUrl : Text} {port : UInt16}
    (full : ¬ Shortened (routeOfRequest email hostOrUrl port)) :
    routeOfRequest email hostOrUrl port = fromUrl email hostOrUrl := by
  rw [routeOfRequest] at full ⊢
  split
  · rfl
  · next bare =>
      rw [if_neg bare] at full
      exact absurd (shortened_new email hostOrUrl port) full

/-- A recoverable route is read back from its written form. -/
theorem routeOfValue_persistedValue {email hostOrUrl : Text} {port : UInt16}
    (recoverable : Recoverable (routeOfRequest email hostOrUrl port)) :
    routeOfValue email (persistedValue (routeOfRequest email hostOrUrl port)) =
      some (routeOfRequest email hostOrUrl port) := by
  by_cases short : Shortened (routeOfRequest email hostOrUrl port)
  · obtain ⟨target, readable⟩ := recoverable_iff.mp recoverable short
    have read :=
      (parseAddr_hostColonPort_iff _ (routeOfRequest email hostOrUrl port).port).mpr readable
    rw [persistedValue, if_pos short, routeOfValue_hostColonPort (slash_not_mem_host _ _ _), read,
      Option.map_some, Option.some.injEq]
    have route_email := routeOfRequest_email email hostOrUrl port
    generalize routeOfRequest email hostOrUrl port = route at target route_email
    rw [← route_email]
    exact new_of_targetUrl target
  · have url := routeOfRequest_of_not_shortened short
    rw [persistedValue, if_neg short, url, routeOfValue_targetUrl_fromUrl]

/-- A registered route whose target is read back from its written form is recoverable. -/
theorem recoverable_of_targetUrl {email hostOrUrl : Text} {port : UInt16}
    (same : (routeOfValue email (persistedValue (routeOfRequest email hostOrUrl port))).map
      targetUrl = some (routeOfRequest email hostOrUrl port).targetUrl) :
    Recoverable (routeOfRequest email hostOrUrl port) := by
  rw [recoverable_iff]
  intro short
  have absent := slash_not_mem_host email hostOrUrl port
  generalize routeOfRequest email hostOrUrl port = route at same short absent
  rw [persistedValue, if_pos short, routeOfValue_hostColonPort absent, Option.map_map] at same
  obtain ⟨⟨read_host, read_port⟩, read, target⟩ := Option.map_eq_some_iff.mp same
  obtain ⟨rfl, rfl⟩ := parseAddr_hostColonPort read
  obtain ⟨between, form⟩ := shortened_iff.mp short
  have trimmed : hostColonPort (route.host.dropWhile isWhitespace) route.port =
      hostColonPort route.host route.port ++ between := by
    rw [Function.comp_apply, new_targetUrl, form, defaultTarget, List.append_cancel_right_eq,
      List.append_assoc, List.append_cancel_left_eq] at target
    exact target
  -- Trimming can only make the host shorter, so nothing was trimmed and nothing stood in between.
  have shorter := (List.dropWhile_suffix (l := route.host) isWhitespace).length_le
  have lengths := congrArg List.length trimmed
  simp only [hostColonPort, List.length_append, List.length_cons] at lengths
  have untrimmed : route.host.dropWhile isWhitespace = route.host :=
    (List.dropWhile_suffix isWhitespace).eq_of_length (by omega)
  have nothing : between = [] := List.length_eq_zero_iff.mp (by omega)
  rw [untrimmed] at read
  exact ⟨by simpa [nothing, defaultTarget] using form, (parseAddr_hostColonPort_iff _ _).mp read⟩

/-- A host that starts with no blank and no bracket makes a recoverable route. -/
theorem recoverable_new {host : Text} (tight : ¬ startsBlank host)
    (unopened : host.head? ≠ some '[') (email : Text) (port : UInt16) :
    Recoverable (new email host port) :=
  recoverable_iff.mpr fun _ => ⟨rfl, tight, fun opened => absurd opened unopened⟩

end AimailBridge
