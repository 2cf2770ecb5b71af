import AimailBridge.Foundation.IpText
import AimailBridge.Server.Relaying

/-!
# What backends are told

A request to a proxied site is handed to the HTTP client with the address of its sender and with the
host that the sender named, whatever the sender has put into these headers.  What the HTTP client
returns is passed back, but for the headers of its connection and the security headers of the
bridge; the redirects of a backend it follows by itself.
-/

namespace AimailBridge

open Foundation Text Push

/-- The host that a request names, by its headers or else by its URI. -/
def namedHost (request : Incoming) : Option Text :=
  let named := ((request.header "host".toList).bind toStr).or
    ((request.header ":authority".toList).bind toStr)
  let host := (named.map fun s => ((rsplitOnce ':' s).map Prod.fst).getD s).getD []
  if host = [] then request.uriHost else some host

/-- The backend of the first site with a route that goes by the name of the host. -/
def SiteOf (world : VhostWorld) (sites : List VhostSiteConfig) (request : Incoming)
    (backend : Text) : Prop :=
  ∃ host before site after, namedHost request = some host ∧
    sites = before ++ site :: after ∧ eqIgnoreAsciiCase host site.domain = true ∧
    (∃ address, site = ⟨site.domain, none, some address, none⟩ ∧
      backend = "http://".toList ++ address) ∧
    ∀ earlier ∈ before, eqIgnoreAsciiCase host earlier.domain = true →
      buildRoute world earlier = none

/-- The headers in which a proxy tells its backend about the client. -/
def forwardingNames : List Text :=
  ["x-forwarded-host".toList, "x-forwarded-proto".toList, "x-forwarded-for".toList]

/-- What the request to a backend says about the client. -/
structure Announces (request : SiteRequest) (ip : IpAddr) (forwarded : Forwarded) : Prop where
  /-- The address of the client, once and so that it can be read back. -/
  client : ∃ value, valuesOf "x-forwarded-for".toList forwarded.headers = [value] ∧
    (toStr value).bind IpAddr.parse = some ip
  /-- The host that the client named, once; a header that is no text counts as an empty one. -/
  host : valuesOf "x-forwarded-host".toList forwarded.headers =
    [((request.header "host".toList).filter fun value => (toStr value).isSome).getD []]
  /-- The scheme, once. -/
  proto : valuesOf "x-forwarded-proto".toList forwarded.headers = [asciiBytes "https".toList]
  /-- The host of the client is not taken for the backend's own. -/
  renamed : valuesOf "host".toList forwarded.headers = []
  /-- All other headers of the client, in their order. -/
  others : headersBeside ("host".toList :: forwardingNames) forwarded.headers =
    headersBeside ("host".toList :: forwardingNames) request.headers

/-- What the client gets of the answer to a forwarded request. -/
structure PassesBack (answer : Option SiteResponse) (response : SiteResponse) : Prop where
  /-- What the HTTP client returns, without the headers of its connection. -/
  answered : ∀ given, answer = some given → response.status = given.status ∧
    response.body = given.body ∧ (∀ name ∈ hopByHop, valuesOf name response.headers = []) ∧
    headersBeside (securityHeaders.map Prod.fst ++ hopByHop) response.headers =
      headersBeside (securityHeaders.map Prod.fst ++ hopByHop) given.headers
  /-- Without an answer, an error. -/
  unanswered : answer = none →
    response.status = 502 ∧ response.body = asciiBytes "bad gateway".toList

/-! ## Sites by name -/

section Sites

variable {world : VhostWorld} {request : Incoming} {sites : List VhostSiteConfig} {host : Text}
  {route : VhostRoute}

theorem findVhost_eq (request : Incoming) (routes : List (Text × VhostRoute)) :
    findVhost request routes = (namedHost request).bind (routeOfDomain routes) := by
  rw [findVhost, namedHost]
  split <;> rfl

theorem routeOfDomain_cons (domain : Text) (own : VhostRoute) (routes : List (Text × VhostRoute)) :
    routeOfDomain ((domain, own) :: routes) host =
      if eqIgnoreAsciiCase host domain then some own else routeOfDomain routes host := by
  cases named : eqIgnoreAsciiCase host domain <;> simp [routeOfDomain, named]

/-- The route of a host is that of the first valid site of its name. -/
theorem routeOfDomain_buildRoutes
    (found : routeOfDomain (buildRoutes world sites) host = some route) :
    ∃ before site after, sites = before ++ site :: after ∧
      eqIgnoreAsciiCase host site.domain = true ∧ buildRoute world site = some route ∧
      ∀ earlier ∈ before, eqIgnoreAsciiCase host earlier.domain = true →
        buildRoute world earlier = none := by
  induction sites with
  | nil => cases found
  | cons site sites induction =>
      have later : routeOfDomain (buildRoutes world sites) host = some route →
          (eqIgnoreAsciiCase host site.domain = true → buildRoute world site = none) →
          ∃ before other after, site :: sites = before ++ other :: after ∧
            eqIgnoreAsciiCase host other.domain = true ∧ buildRoute world other = some route ∧
            ∀ earlier ∈ before, eqIgnoreAsciiCase host earlier.domain = true →
              buildRoute world earlier = none := by
        intro rest passed
        obtain ⟨before, other, after, split, named, built, first⟩ := induction rest
        refine ⟨site :: before, other, after, by rw [split, List.cons_append], named, built, ?_⟩
        exact List.forall_mem_cons.mpr ⟨passed, first⟩
      cases built : buildRoute world site with
      | none =>
          have same : buildRoutes world (site :: sites) = buildRoutes world sites := by
            simp [buildRoutes, built]
          rw [same] at found
          exact later found fun _ => built
      | some own =>
          have listed : buildRoutes world (site :: sites) =
              (site.domain, own) :: buildRoutes world sites := by
            simp [buildRoutes, built]
          rw [listed, routeOfDomain_cons] at found
          by_cases named : eqIgnoreAsciiCase host site.domain = true
          · rw [if_pos named] at found
            refine ⟨[], site, sites, rfl, named, ?_, fun _ member => absurd member List.not_mem_nil⟩
            rw [built]
            exact found
          · rw [if_neg named] at found
            exact later found fun same => absurd same named

/-- A proxy is the route of a site with a backend and nothing else. -/
theorem buildRoute_proxy {site : VhostSiteConfig} {backend : Text}
    (built : buildRoute world site = some (.proxy backend)) :
    ∃ address, site = ⟨site.domain, none, some address, none⟩ ∧
      backend = "http://".toList ++ address := by
  obtain ⟨domain, root, proxy, redirect⟩ := site
  rw [buildRoute] at built
  split at built
  · obtain ⟨_, same⟩ := Option.ite_none_right_eq_some.mp built
    cases same
  · next address no_root own no_redirect =>
      obtain ⟨_, same⟩ := Option.ite_none_right_eq_some.mp built
      obtain rfl : "http://".toList ++ address = backend :=
        VhostRoute.proxy.inj (Option.some.inj same)
      cases no_root
      cases own
      cases no_redirect
      exact ⟨address, rfl, rfl⟩
  · cases built
  · cases built

/-- What the fallback proxies to is the backend of the named site. -/
theorem siteOf_of_findVhost {backend : Text}
    (found : findVhost request (buildRoutes world sites) = some (.proxy backend)) :
    SiteOf world sites request backend := by
  rw [findVhost_eq] at found
  obtain ⟨host, named, routed⟩ := Option.bind_eq_some_iff.mp found
  obtain ⟨before, site, after, split, same, built, first⟩ := routeOfDomain_buildRoutes routed
  exact ⟨host, before, site, after, named, split, same, buildRoute_proxy built, first⟩

end Sites

/-! ## Headers -/

section Headers

variable {request : SiteRequest} {ip : IpAddr}

/-- The bytes of ASCII text that a header may hold. -/
theorem headerValue_ascii {s : Text}
    (readable : ∀ c ∈ s, 32 ≤ c.toNat ∧ c.toNat < 127 ∨ c.toNat = 9) :
    headerValue s = some (asciiBytes s) := by
  have encoded : utf8 s = asciiBytes s := utf8_of_ascii fun c member => by
    have bound := readable c member
    omega
  rw [headerValue, encoded, if_pos]
  rw [asciiBytes, List.all_map, List.all_eq_true]
  intro c member
  have small : c.toNat.toUInt8.toNat = c.toNat :=
    Nat.mod_eq_of_lt (by have bound := readable c member; omega)
  simp only [Function.comp_apply, Bool.or_eq_true, Bool.and_eq_true, decide_eq_true_eq, beq_iff_eq,
    bne_iff_ne, ne_eq, ← UInt8.toNat_inj, UInt8.le_iff_toNat_le, small]
  have bound := readable c member
  have printable : (32 : UInt8).toNat = 32 ∧ (127 : UInt8).toNat = 127 ∧ (9 : UInt8).toNat = 9 := by
    decide
  omega

/-- A text of visible characters is sent as it is, and reads back. -/
theorem headerValue_visible {s : Text} (visible : ∀ c ∈ s, 32 ≤ c.toNat ∧ c.toNat < 127) :
    headerValue s = some (asciiBytes s) ∧ toStr (asciiBytes s) = some s := by
  have small : ∀ c ∈ s, c.toNat.toUInt8.toNat = c.toNat := by
    intro c member
    have bound := (visible c member).2
    exact Nat.mod_eq_of_lt (by omega)
  refine ⟨headerValue_ascii fun c member => Or.inl (visible c member), ?_⟩
  have readable : (asciiBytes s).all (fun b => (32 ≤ b && b < 127) || b == 9) = true := by
    rw [asciiBytes, List.all_map, List.all_eq_true]
    intro c member
    have lower : (32 : UInt8) ≤ c.toNat.toUInt8 := by
      rw [UInt8.le_iff_toNat_le, small c member]
      exact (visible c member).1
    have upper : c.toNat.toUInt8 < 127 := by
      rw [UInt8.lt_iff_toNat_lt, small c member]
      exact (visible c member).2
    simp [lower, upper]
  rw [toStr, if_pos readable, asciiBytes, List.map_map]
  refine congrArg some ((List.map_congr_left fun c member => ?_).trans (List.map_id s))
  rw [Function.comp_apply, small c member, Char.ofNat_toNat, id]

theorem visible_display (ip : IpAddr) : ∀ c ∈ IpAddr.display ip, 32 ≤ c.toNat ∧ c.toNat < 127 := by
  have digits : ∀ digit < 16, 32 ≤ (Nat.digitChar digit).toNat ∧
      (Nat.digitChar digit).toNat < 127 := by decide
  intro c member
  rcases IpAddr.mem_display member with rfl | rfl | ⟨digit, small, rfl⟩
  · decide
  · decide
  · exact digits digit small

/-- A header that is a text is the value of that text. -/
theorem headerValue_of_toStr {value : Bytes} {s : Text} (read : toStr value = some s) :
    headerValue s = some value := by
  obtain ⟨readable, same⟩ := Option.ite_none_right_eq_some.mp read
  obtain rfl := Option.some.inj same
  rw [List.all_eq_true] at readable
  have exact_char : ∀ b : UInt8, (Char.ofNat b.toNat).toNat = b.toNat := by
    intro b
    have bound := b.toNat_lt
    rw [Char.ofNat, dif_pos (Or.inl (by omega))]
    rfl
  have visible : ∀ c ∈ value.map fun b => Char.ofNat b.toNat,
      32 ≤ c.toNat ∧ c.toNat < 127 ∨ c.toNat = 9 := by
    intro c member
    obtain ⟨b, listed, rfl⟩ := List.mem_map.mp member
    have range := readable b listed
    simp only [Bool.or_eq_true, Bool.and_eq_true, decide_eq_true_eq, beq_iff_eq,
      UInt8.le_iff_toNat_le, UInt8.lt_iff_toNat_lt] at range
    rw [exact_char]
    rcases range with printable | rfl
    · exact Or.inl printable
    · exact Or.inr rfl
  rw [headerValue_ascii visible, asciiBytes, List.map_map]
  refine congrArg some ((List.map_congr_left fun b _ => ?_).trans (List.map_id value))
  rw [Function.comp_apply, exact_char]
  exact UInt8.ofNat_toNat

/-- The headers in which a proxy tells its backend about the client, with their values. -/
def forwardingHeaders (request : Incoming) (clientIp : Option IpAddr) : List (Text × Bytes) :=
  let unknown := asciiBytes "unknown".toList
  let originalHost := ((request.header "host".toList).bind toStr).getD []
  let clientText := (clientIp.map IpAddr.display).getD "unknown".toList
  [("x-forwarded-host".toList, (headerValue originalHost).getD unknown),
    ("x-forwarded-proto".toList, asciiBytes "https".toList),
    ("x-forwarded-for".toList, (headerValue clientText).getD unknown)]

theorem proxiedHeaders_eq (request : Incoming) (clientIp : Option IpAddr) :
    proxiedHeaders request clientIp = insertHeaders (forwardingHeaders request clientIp)
      (removeHeader "host".toList request.headers) :=
  rfl

/-- A forwarded request tells the truth about its client. -/
theorem announces_proxied (peer : request.peer = some ip) (backend : Text) (bodyLimitMb : UInt32) :
    Announces request ip (proxied backend request request.peer bodyLimitMb) := by
  have names : (forwardingHeaders request.toIncoming request.peer).map Prod.fst =
      forwardingNames := rfl
  have distinct : ((forwardingHeaders request.toIncoming request.peer).map Prod.fst).Nodup := by
    rw [names]
    decide
  have told : ∀ name value, (name, value) ∈ forwardingHeaders request.toIncoming request.peer →
      valuesOf name (proxiedHeaders request.toIncoming request.peer) = [value] := by
    intro name value member
    rw [proxiedHeaders_eq]
    exact valuesOf_insertHeaders distinct member _
  refine ⟨?_, ?_, ?_, ?_, ?_⟩
  · obtain ⟨sent, read⟩ := headerValue_visible (visible_display ip)
    refine ⟨asciiBytes (IpAddr.display ip), ?_, ?_⟩
    · refine told _ _ ?_
      rw [forwardingHeaders, peer, Option.map_some, Option.getD_some, sent]
      simp
    · rw [read, Option.bind_some, IpAddr.parse_display]
  · refine (told _ _ List.mem_cons_self).trans ?_
    cases given : request.header "host".toList with
    | none => rfl
    | some value =>
        rw [Option.bind_some]
        cases read : toStr value with
        | none =>
            rw [Option.filter_some, read]
            rfl
        | some s =>
            rw [Option.filter_some, read, Option.getD_some, headerValue_of_toStr read]
            rfl
  · exact told _ _ (List.mem_cons_of_mem _ List.mem_cons_self)
  · have other : "host".toList ∉ forwardingNames := by decide
    rw [← names] at other
    rw [proxied, proxiedHeaders_eq, valuesOf_insertHeaders_of_not_mem other]
    exact valuesOf_removeHeader_self _ _
  · have kept := @headersBeside_insertHeaders ("host".toList :: forwardingNames)
      (forwardingHeaders request.toIncoming request.peer)
      (fun header member => List.mem_cons_of_mem _ (List.mem_map_of_mem member))
      (removeHeader "host".toList request.headers)
    rw [proxied, proxiedHeaders_eq, kept]
    exact headersBeside_removeHeader List.mem_cons_self _

end Headers

/-! ## From the socket to the backend -/

section Sending

variable {world : VhostWorld} {push : PushConfig} {request : Incoming} {windows : RateWindows}
  {route : VhostRoute} {config : AppConfig} {turn : HttpTurn} {state : AppState}
  {forwarded : Forwarded}

/-- The filters never hand a request to a virtual host themselves. -/
theorem vhost_guarded {check : Option (Check RateWindows PushReply)}
    {next : Service RateWindows PushReply} (refuses : Refuses PushReply.status check)
    (handled : (guarded check next request windows).1 = .vhost route) :
    (next request (passed check request windows)).1 = .vhost route :=
  ((@guarded_iff _ _ check next request windows PushReply.status (· = .vhost route) refuses
    fun _ => PushReply.noConfusion).mp handled).2

theorem vhost_filtered {next : Service RateWindows PushReply}
    (handled : (filtered push next request windows).1 = .vhost route) :
    ∃ windows, (next request windows).1 = .vhost route := by
  have limited := vhost_guarded (refuses_rateLimitCheck push.rateLimit) handled
  have allowed := vhost_guarded (refuses_allowlistCheck push.allowedIps) limited
  exact ⟨_, vhost_guarded (refuses_blacklistCheck push.blacklistIps) allowed⟩

theorem webhookService_ne_vhost :
    (webhookService push request windows).1 ≠ .vhost route := by
  rw [webhookService, limitBody, onMethod_singleton _ (by decide), webhookEndpoint]
  split
  · split <;> exact PushReply.noConfusion
  · exact PushReply.noConfusion

/-- The push router hands a request to a virtual host when its path is no webhook's and its host is
that of a site; the rate limiter does not hear of it. -/
theorem vhost_of_handle
    (handled : ((buildPushRouter world push).handle request windows).1 = .vhost route) :
    webhookCapture request.path = none ∧
      findVhost request (buildRoutes world push.sites) = some route ∧
      ((buildPushRouter world push).handle request windows).2 = windows := by
  rw [Router.handle] at handled ⊢
  cases captures : webhookCapture request.path with
  | some captured =>
      rw [select_webhook captures] at handled
      obtain ⟨_, own⟩ := vhost_filtered handled
      exact absurd own webhookService_ne_vhost
  | none =>
      by_cases sites : push.sites = []
      · rw [select_notFound captures sites] at handled
        obtain ⟨_, own⟩ := vhost_filtered handled
        cases own
      · rw [select_unmatched captures sites, vhostFallback] at handled ⊢
        cases found : findVhost request (buildRoutes world push.sites) with
        | none =>
            rw [found] at handled
            cases handled
        | some other =>
            rw [found] at handled
            exact ⟨rfl, congrArg some (PushReply.vhost.inj handled), rfl⟩

/-- Only a proxy sends a request to a backend. -/
theorem proxy_of_send {sites : SiteWorld} {own : SiteRequest} {clientIp : Option IpAddr}
    {bodyLimitMb : UInt32}
    (sends : .send forwarded ∈ (handleVhost sites route own clientIp bodyLimitMb).2) :
    ∃ backend, route = .proxy backend ∧
      forwarded = proxied backend own clientIp bodyLimitMb ∧
      sites.connects (proxyUrl backend own) = true := by
  cases route with
  | redirect url => exact absurd sends List.not_mem_nil
  | «static» root =>
      rw [handleVhost] at sends
      by_cases dotted : ['.', '.'] <:+: trimStartMatches '/' own.path
      · rw [serveStatic_dotted dotted] at sends
        exact absurd sends List.not_mem_nil
      · rcases serveStatic_straight dotted sends with same | same <;> cases same
  | proxy backend =>
      rw [handleVhost] at sends
      cases connected : sites.connects (proxyUrl backend own) with
      | false =>
          rw [serveProxy_unconnected connected] at sends
          exact absurd sends List.not_mem_nil
      | true =>
          rw [serveProxy_sends connected, List.mem_singleton] at sends
          exact ⟨backend, rfl, SiteEffect.send.inj sends, connected⟩

/-- The headers of its connection are taken off an answer, and the security headers put on it. -/
theorem passesBack_secured {sites : SiteWorld} {backend : Text} {own : SiteRequest}
    {clientIp : Option IpAddr} {bodyLimitMb : UInt32} {effects : List HttpEffect}
    (connected : sites.connects (proxyUrl backend own) = true) :
    PassesBack (sites.answer (proxied backend own clientIp bodyLimitMb))
      (HttpOutcome.secured
        ⟨(serveProxy sites backend own clientIp bodyLimitMb).1, effects⟩).response := by
  have own_names : ∀ name ∈ hopByHop, name ∉ securityHeaders.map Prod.fst := by decide
  have gets_out : sites.connects (proxied backend own clientIp bodyLimitMb).url = true := connected
  rw [serveProxy]
  dsimp only
  rw [if_pos gets_out]
  cases answered : sites.answer (proxied backend own clientIp bodyLimitMb) with
  | none =>
      refine ⟨fun given same => ?_, fun _ => ⟨rfl, rfl⟩⟩
      exact absurd same.symm (Option.some_ne_none given)
  | some given =>
      refine ⟨fun other same => ?_, fun missing => absurd missing (Option.some_ne_none given)⟩
      obtain rfl := Option.some.inj same
      refine ⟨rfl, rfl, fun name listed => ?_, ?_⟩
      · refine (valuesOf_insertHeaders_of_not_mem (own_names name listed) _).trans ?_
        rw [valuesOf, List.filter_filter, List.map_eq_nil_iff, List.filter_eq_nil_iff]
        rintro header _ both
        simp only [Bool.and_eq_true, decide_eq_true_eq, Bool.not_eq_true'] at both
        rw [both.1] at both
        simp [listed] at both
      · refine (headersBeside_insertHeaders (fun header member =>
          List.mem_append_left _ (List.mem_map_of_mem member)) _).trans ?_
        rw [headersBeside, List.filter_filter, headersBeside]
        congr 1
        funext header
        by_cases listed : header.1 ∈ hopByHop <;> simp [listed]

/-- A request to a backend that the server hands to its HTTP client, with what becomes of it. -/
structure Proxies (config : AppConfig) (turn : HttpTurn) (ip : IpAddr) (forwarded : Forwarded)
    (response : SiteResponse) : Prop where
  /-- It goes to the backend of the site that the client named, with the method and the target of
  the client. -/
  site : ∃ backend, SiteOf config.vhosts config.push.sites turn.request.toIncoming backend ∧
    forwarded.method = turn.request.method ∧ forwarded.url = proxyUrl backend turn.request
  /-- The path is none of the server's own. -/
  foreign : isAdminPath turn.request.path = false ∧ webhookCapture turn.request.path = none
  /-- The backend is told about the client. -/
  announces : Announces turn.request ip forwarded
  /-- The client gets the answer that the HTTP client returns. -/
  passesBack : PassesBack (turn.sites.answer forwarded) response

/-- Whenever the server hands its HTTP client a request to a backend, it is the client's own to the
site that the client named: it tells the true address of the client, and the client gets the answer
that the HTTP client returns.  The tables stay as they are. -/
theorem backend_told (config : AppConfig) (turn : HttpTurn) (state : AppState) (ip : IpAddr)
    (peer : turn.request.peer = some ip) (forwarded : Forwarded)
    (sends : .site (.send forwarded) ∈ (serve config turn state).1.effects) :
    Proxies config turn ip forwarded (serve config turn state).1.response ∧
      (serve config turn state).2 = state := by
  rw [serve_eq] at sends ⊢
  obtain ⟨pushes, own⟩ := push_of_effect sends
  rw [answer_push pushes own] at sends ⊢
  rw [pushAnswer, pushService] at sends ⊢
  cases handled : (buildPushRouter config.vhosts config.push).handle turn.request.toIncoming
      state.windows with
  | mk reply windows =>
      rw [handled] at sends
      dsimp only at sends ⊢
      cases reply with
      | status code => exact absurd sends List.not_mem_nil
      | webhook body =>
          rw [runHandler, HttpOutcome.secured] at sends
          simp [WebhookOutcome.effects] at sends
      | vhost route =>
          obtain ⟨foreign, found, untouched⟩ := vhost_of_handle (by rw [handled])
          rw [handled] at untouched
          obtain rfl : windows = state.windows := untouched
          have sent : .send forwarded ∈ (handleVhost turn.sites route turn.request
              turn.request.peer config.push.bodyLimitMb).2 := by
            rw [runHandler, HttpOutcome.secured] at sends
            obtain ⟨effect, member, same⟩ := List.mem_map.mp sends
            cases same
            exact member
          obtain ⟨backend, rfl, rfl, connected⟩ := proxy_of_send sent
          exact ⟨⟨⟨backend, siteOf_of_findVhost found, rfl, rfl⟩, ⟨own, foreign⟩,
            announces_proxied peer backend _, passesBack_secured connected⟩, rfl⟩

end Sending

/-! ## A request that is proxied -/

/-- A server with one proxied site. -/
def shopApp : AppConfig :=
  { openApp with
    push := { openApp.push with
      sites := [⟨"shop.x.org".toList, none, some "127.0.0.1:9000".toList, none⟩] }
    vhosts := ⟨fun _ => true, fun _ => true⟩ }

/-- A request to the site, by a client that calls itself somebody else. -/
def shopTurn : HttpTurn :=
  { webhookTurn with
    request := { webhookTurn.request with
      path := "/cart".toList
      headers := [("host".toList, asciiBytes "Shop.x.org:443".toList),
        ("x-forwarded-for".toList, asciiBytes "10.0.0.1".toList)]
      pathAndQuery := some "/cart?item=7".toList } }

theorem backend_told_sample : ∃ forwarded,
    Proxies shopApp shopTurn (.v4 0x7F000001) forwarded
      (serve shopApp shopTurn ⟨sampleRouter, ∅⟩).1.response :=
  ⟨proxied "http://127.0.0.1:9000".toList shopTurn.request shopTurn.request.peer
      shopApp.push.bodyLimitMb,
    (backend_told shopApp shopTurn ⟨sampleRouter, ∅⟩ (.v4 0x7F000001) rfl _
      (by decide +kernel)).1⟩

end AimailBridge
