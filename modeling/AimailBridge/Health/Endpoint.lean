import AimailBridge.Foundation.Url
import AimailBridge.Health.Check

/-!
# The endpoint of a route

A route names its endpoint three times: in its URL, in its host and port, and in the key that the
health check makes of the URL.  The three agree when the URL has an explicit port, and without one
for a plain address with a host that is not in brackets.
-/

namespace AimailBridge

open Foundation Text ProfileRoute ProfileRouter

/-! ## The key of a target -/

/-- The host and the port that a target key is made of. -/
def targetEndpoint (r : ProfileRoute) : Text × UInt16 :=
  let authority := (breakAt '/' (urlRest r.targetUrl)).1
  match stripPrefix ['['] authority with
  | some b =>
      match (splitOnce [']', ':'] b).bind fun (h, p) => (parseU16 p).map (h, ·) with
      | some (h, port) => ('[' :: h ++ [']'], port)
      | none => ('[' :: trimEndMatches ']' b ++ [']'], 443)
  | none =>
      match (rsplitOnce ':' authority).bind fun (h, p) => (parseU16 p).map (h, ·) with
      | some (h, port) => (h, port)
      | none => (authority, if httpsPrefix <+: r.targetUrl then 443 else 80)

theorem routeTargetKey_eq (r : ProfileRoute) :
    routeTargetKey r = hostColonPort (targetEndpoint r).1 (targetEndpoint r).2 := by
  simp only [routeTargetKey, targetEndpoint]
  generalize (breakAt '/' (urlRest r.targetUrl)).1 = authority
  cases stripPrefix ['['] authority with
  | some b =>
      dsimp only
      cases (splitOnce [']', ':'] b).bind fun (h, p) => (parseU16 p).map (h, ·) <;> rfl
  | none =>
      dsimp only
      cases (rsplitOnce ':' authority).bind fun (h, p) => (parseU16 p).map (h, ·) <;> rfl

/-- A key names one host and one port. -/
theorem hostColonPort_inj {host other : Text} {port otherPort : UInt16} :
    hostColonPort host port = hostColonPort other otherPort ↔ host = other ∧ port = otherPort := by
  constructor
  · intro same
    have colonless : ∀ n, ':' ∉ decimal n := fun n => not_mem_decimal (by decide)
    have split := rsplitOnce_append (colonless port.toNat) host
    have otherSplit := rsplitOnce_append (colonless otherPort.toNat) other
    rw [← hostColonPort, same, hostColonPort, otherSplit, Option.some.injEq, Prod.mk.injEq] at split
    obtain ⟨host_eq, digits⟩ := split
    exact ⟨host_eq.symm, UInt16.toNat_inj.mp (decimal_injective digits.symm)⟩
  · rintro ⟨rfl, rfl⟩
    rfl

/-! ## Reading a well-formed URL -/

theorem urlRest_text (url : Url) : urlRest url.text = authority url.host url.port ++ url.path := by
  have not_http : ∀ rest, stripPrefix httpPrefix (Scheme.https.opening ++ rest) = none := by
    intro rest
    rw [stripPrefix_eq_none]
    rintro ⟨back, same⟩
    simp [httpPrefix, Scheme.opening, Scheme.name] at same
  have http : stripPrefix httpPrefix
      (Scheme.http.opening ++ (authority url.host url.port ++ url.path)) =
        some (authority url.host url.port ++ url.path) := stripPrefix_append _ _
  have https : stripPrefix httpsPrefix
      (Scheme.https.opening ++ (authority url.host url.port ++ url.path)) =
        some (authority url.host url.port ++ url.path) := stripPrefix_append _ _
  rw [Url.text, urlRest]
  cases url.scheme with
  | http => rw [http]
  | https => rw [not_http, https]

theorem https_prefix_text_iff (url : Url) : httpsPrefix <+: url.text ↔ url.scheme = .https := by
  rw [Url.text]
  cases url.scheme with
  | http =>
      refine iff_of_false ?_ (by decide)
      rintro ⟨back, same⟩
      simp [httpsPrefix, Scheme.opening, Scheme.name] at same
  | https => exact iff_of_true (List.prefix_append _ _) rfl

theorem breakAt_text (url : Url) :
    breakAt '/' (urlRest url.text) = (authority url.host url.port, url.path) := by
  rw [urlRest_text, breakAt_of_not_mem (slash_not_mem_authority _ _) url.rooted]

/-- A well-formed URL is its own target, up to blanks behind its path. -/
theorem fromUrl_text (email : Text) (url : Url) :
    fromUrl email url.text =
      { email
        host := (hostPort (authority url.host url.port)).1
        port := (hostPort (authority url.host url.port)).2
        targetUrl := url.trimmed.text } := by
  have scheme : urlScheme url.trimmed.text ++ schemeSeparator = url.scheme.opening := by
    rw [urlScheme]
    simp only [https_prefix_text_iff]
    change (if url.scheme = .https then _ else _) ++ schemeSeparator = _
    cases url.scheme <;> rfl
  simp only [fromUrl, Url.trim_text, breakAt_text, scheme, List.append_assoc]
  rfl

/-- A closed bracket with nothing behind it leaves no port to split off. -/
theorem splitOnce_closed {address : Text} (absent : ']' ∉ address) :
    splitOnce [']', ':'] (address ++ [']']) = none := by
  cases split : splitOnce [']', ':'] (address ++ [']']) with
  | none => rfl
  | some parts =>
      have form : address ++ [']'] = parts.1 ++ ']' :: ':' :: parts.2 := by
        simpa using splitOnce_eq_some_append split
      have counts := congrArg (List.count ']') form
      rw [List.count_append, List.count_append, List.count_eq_zero_of_not_mem absent,
        List.count_cons_self, List.count_cons_self] at counts
      have front_absent : ']' ∉ parts.1 := by
        rw [← List.count_eq_zero]
        simp at counts
        omega
      have breaks := congrArg (breakAt ']') form
      rw [breakAt_of_not_mem absent (by simp), breakAt_of_not_mem front_absent (by simp)] at breaks
      simp at breaks

theorem trimEndMatches_closed {address : Text} (absent : ']' ∉ address) :
    trimEndMatches ']' (address ++ [']']) = address := by
  rw [trimEndMatches, List.rdropWhile_concat_pos _ _ _ (by simp), List.rdropWhile_eq_self_iff]
  intro nonempty closing
  have last : address.getLast nonempty = ']' := by simpa using closing
  exact absent (last ▸ List.getLast_mem nonempty)

theorem closing_not_mem_literal {address : Text}
    (plain : ∀ c ∈ address, Url.isLiteralChar c = true) : ']' ∉ address :=
  fun member => (isLiteralChar_spec (plain _ member)).2.2.2.2.1 rfl

theorem colon_not_mem_name {text : Text} (plain : ∀ c ∈ text, Url.isNameChar c = true) :
    ':' ∉ text :=
  fun member => (isNameChar_spec (plain _ member)).1 (by decide)

/-- What the readers of an authority find behind an opened bracket. -/
theorem stripPrefix_literal (address behind : Text) :
    stripPrefix ['['] ('[' :: address ++ [']'] ++ behind) = some (address ++ ']' :: behind) :=
  stripPrefix_eq_some.mpr (by simp)

theorem stripPrefix_name {text : Text} (nonempty : text ≠ [])
    (plain : ∀ c ∈ text, Url.isNameChar c = true) (behind : Text) :
    stripPrefix ['['] (text ++ behind) = none := by
  rw [stripPrefix_eq_none]
  rintro ⟨rest, opened⟩
  obtain ⟨first, tail, rfl⟩ := List.exists_cons_of_ne_nil nonempty
  obtain rfl : '[' = first := by simpa using (List.cons.inj opened).1
  exact (isNameChar_spec (plain '[' List.mem_cons_self)).1 (by decide)

theorem colon_not_mem_digits (port : UrlPort) : ':' ∉ port.digits :=
  fun member => (isDigit_spec (port.numeric _ member)).2.2 rfl

theorem splitOnce_literal {address : Text} (absent : ']' ∉ address) (digits : Text) :
    splitOnce [']', ':'] (address ++ ']' :: ':' :: digits) = some (address, digits) := by
  have alone : ¬ [']', ':'] <:+: address := fun inside => absent (inside.subset List.mem_cons_self)
  have split : splitOnce [']', ':'] (address ++ [']', ':'] ++ digits) = some (address, digits) :=
    splitOnce_pair (by decide) alone
  simpa using split

/-- The fields of a route take port 80 where none is given. -/
theorem hostPort_authority (host : UrlHost) (port : Option UrlPort) :
    hostPort (authority host port) = (host.text, (port.map UrlPort.value).getD 80) := by
  cases host with
  | name text nonempty plain =>
      have absent := colon_not_mem_name plain
      cases port with
      | none =>
          have no_port := rsplitOnce_eq_none.mpr absent
          have unopened := stripPrefix_name nonempty plain []
          rw [List.append_nil] at unopened
          simp [hostPort, authority, UrlHost.text, unopened, no_port]
      | some port =>
          have split := rsplitOnce_append (colon_not_mem_digits port) text
          simp [hostPort, authority, UrlHost.text, stripPrefix_name nonempty plain, split,
            port.denotes]
  | literal address plain =>
      have absent := closing_not_mem_literal plain
      rw [hostPort, authority, UrlHost.text, stripPrefix_literal]
      cases port with
      | none => simp [splitOnce_closed absent, trimEndMatches_closed absent]
      | some port => simp [splitOnce_literal absent, port.denotes]

/-- The key of a target takes the port of the scheme where none is given, and 443 behind a
bracket. -/
theorem targetEndpoint_text {route : ProfileRoute} (url : Url)
    (target : route.targetUrl = url.text) :
    targetEndpoint route =
      (url.host.text, (url.port.map UrlPort.value).getD
        (if url.host.Bracketed then 443 else url.scheme.defaultPort)) := by
  have default : (if httpsPrefix <+: url.text then (443 : UInt16) else 80) =
      url.scheme.defaultPort := by
    simp only [https_prefix_text_iff]
    cases url.scheme <;> rfl
  simp only [targetEndpoint, target, breakAt_text, default]
  cases url.host with
  | name text nonempty plain =>
      have absent := colon_not_mem_name plain
      cases url.port with
      | none =>
          have no_port := rsplitOnce_eq_none.mpr absent
          have unopened := stripPrefix_name nonempty plain []
          rw [List.append_nil] at unopened
          simp [authority, UrlHost.text, unopened, no_port, UrlHost.Bracketed]
      | some port =>
          have split := rsplitOnce_append (colon_not_mem_digits port) text
          simp [authority, UrlHost.text, stripPrefix_name nonempty plain, split, port.denotes]
  | literal address plain =>
      have absent := closing_not_mem_literal plain
      simp only [authority, UrlHost.text, stripPrefix_literal]
      cases url.port with
      | none =>
          simp [splitOnce_closed absent, trimEndMatches_closed absent, UrlHost.Bracketed]
      | some port => simp [splitOnce_literal absent, port.denotes]

/-! ## Agreement -/

/-- The key of the target, and the host and port of the route, both name what a client of the target
connects to. -/
def ReadingsAgree (route : ProfileRoute) : Prop :=
  ∃ host port, Url.connectsTo route.targetUrl = some (host, port) ∧
    routeTargetKey route = hostColonPort host port ∧ route.host = host ∧ route.port = port

/-- What a route is built from. -/
inductive RouteSource
  /-- A well-formed URL. -/
  | url (address : Url)
  /-- A host and a port. -/
  | hostPort (host : UrlHost) (port : UInt16)

namespace RouteSource

/-- The route built from it. -/
def route (email : Text) : RouteSource → ProfileRoute
  | .url address => fromUrl email address.text
  | .hostPort host port => ProfileRoute.new email host.text port

/-- The port is explicit, or it is the default port of plain addresses and behind no bracket. -/
def HasPlainPort : RouteSource → Prop
  | .url address => address.port.isSome ∨ (address.scheme = .http ∧ ¬ address.host.Bracketed)
  | .hostPort _ _ => True

end RouteSource

theorem readingsAgree_text_iff {route : ProfileRoute} {url : Url}
    (target : route.targetUrl = url.text) :
    ReadingsAgree route ↔
      targetEndpoint route = url.endpoint ∧ (route.host, route.port) = url.endpoint := by
  rw [ReadingsAgree, target, Url.connectsTo_text, routeTargetKey_eq]
  constructor
  · rintro ⟨host, port, connects, key, rfl, rfl⟩
    obtain ⟨key_host, key_port⟩ := hostColonPort_inj.mp key
    rw [Option.some.inj connects]
    exact ⟨Prod.ext key_host key_port, rfl⟩
  · rintro ⟨key, fields⟩
    refine ⟨route.host, route.port, congrArg some fields.symm, ?_, rfl, rfl⟩
    rw [key, ← fields]

/-- The URL of an endpoint that was given as a host and a port. -/
def defaultUrl (host : UrlHost) (port : UInt16) : Url where
  scheme := .http
  host := host
  port := some (.ofNumber port)
  path := defaultPath
  rooted _ first := (Option.some.inj first).symm

theorem defaultTarget_text (host : UrlHost) (port : UInt16) :
    defaultTarget host.text port = (defaultUrl host port).text := by
  simp [defaultTarget, defaultUrl, Url.text, authority, hostColonPort, UrlPort.ofNumber,
    Scheme.opening, Scheme.name, httpPrefix]

/-- The readings of a route agree exactly when its port is explicit or plain. -/
theorem readingsAgree_iff (email : Text) (source : RouteSource) :
    ReadingsAgree (source.route email) ↔ source.HasPlainPort := by
  cases source with
  | hostPort host port =>
      have target : (ProfileRoute.new email host.text port).targetUrl =
          (defaultUrl host port).text := defaultTarget_text host port
      rw [RouteSource.route, readingsAgree_text_iff target, targetEndpoint_text _ target]
      exact iff_of_true ⟨rfl, rfl⟩ trivial
  | url address =>
      have target : (fromUrl email address.text).targetUrl = address.trimmed.text := by
        rw [fromUrl_text]
      have fields : ((fromUrl email address.text).host, (fromUrl email address.text).port) =
          hostPort (authority address.host address.port) := by
        rw [fromUrl_text]
      rw [RouteSource.route, readingsAgree_text_iff target, targetEndpoint_text _ target, fields,
        hostPort_authority, RouteSource.HasPlainPort]
      obtain ⟨scheme, host, port, path, rooted⟩ := address
      cases port with
      | some port => exact iff_of_true ⟨rfl, rfl⟩ (Or.inl rfl)
      | none =>
          by_cases bracketed : host.Bracketed <;> cases scheme <;>
            simp [Url.trimmed, Url.endpoint, Scheme.defaultPort, bracketed]

/-- An `https` address without a port is listed, and rebuilt from a pattern, at port 80; a plain one
with a bracketed host is probed at 443. -/
theorem portless_readings_disagree :
    ¬ ReadingsAgree (fromUrl "bot@x.org".toList "https://10.0.0.5/hook".toList) ∧
      ¬ ReadingsAgree (fromUrl "bot@x.org".toList "http://[::1]/hook".toList) := by
  constructor
  · rintro ⟨host, port, connects, _, _, rfl⟩
    have client : (443 : UInt16) = (fromUrl "bot@x.org".toList
        "https://10.0.0.5/hook".toList).port := congrArg Prod.snd (Option.some.inj connects)
    exact absurd client (by decide)
  · rintro ⟨host, port, connects, key, _, _⟩
    have client : ("[::1]".toList, (80 : UInt16)) = (host, port) := Option.some.inj connects
    obtain ⟨rfl, rfl⟩ := Prod.mk.inj client
    exact absurd key (by decide)

end AimailBridge
