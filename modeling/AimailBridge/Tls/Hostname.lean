import AimailBridge.Foundation.IpLiteral

/-!
# Reading the hostname

The hostname setting decides whether the server uses TLS, and names the domain that a certificate is
ordered for.  The first question cuts the setting at its first colon, and the second takes it as it
is.
-/

namespace AimailBridge

open Foundation Text

/-- What the TLS set-up uses of the bridge's configuration. -/
structure BridgeConfig where
  /-- Listen address in "host:port" format. -/
  bind : Text
  /-- Public hostname or IP:port announced to the gateway. -/
  hostname : Option Text

/-- Check if a hostname is an IP address (with optional port suffix). -/
def isIpAddress (host : Text) : Bool :=
  (IpAddr.parse (breakAt ':' host).1).isSome

namespace BridgeConfig

/-- Parse `bind` into host and port; the default port is 80. -/
def parsedBind (config : BridgeConfig) : Text × UInt16 :=
  match rsplitOnce ':' config.bind with
  | some (host, port) =>
      match parseU16 port with
      | some port => (host, port)
      | none => (config.bind, 80)
  | none => (config.bind, 80)

/-- Whether TLS should be enabled. -/
def hasTls (config : BridgeConfig) : Bool :=
  config.hostname.any fun hostname => !isIpAddress hostname

/-- Whether port 80 is to redirect to port 443. -/
def isDualPort (config : BridgeConfig) : Bool :=
  config.parsedBind.2 == 80 && config.hostname.any fun hostname => !isIpAddress hostname

/-- The domain that `acme_tls_config` passes on; without a hostname it fails. -/
def acmeDomain (config : BridgeConfig) : Option Text :=
  config.hostname

end BridgeConfig

/-- The DNS identifiers of the order in `acquire_cert_inner`. -/
def orderedNames (domain : Text) : List Text :=
  [domain]

/-- The names of the certificate and of the key in the cache directory. -/
def cachedNames (domain : Text) : Text × Text :=
  (domain ++ ".cert.pem".toList, domain ++ ".key.pem".toList)

/-! ## Settings of the documented form -/

/-- A host of a setting. -/
inductive SettingHost
  /-- A DNS name. -/
  | domain (name : Text) (no_colon : ':' ∉ name) (no_literal : IpAddr.parse name = none)
  /-- An IPv4 literal. -/
  | ipv4 (literal : Text) (bits : BitVec 32) (parsed : IpAddr.parse literal = some (.v4 bits))
  /-- An IPv6 literal. -/
  | ipv6 (literal : Text) (bits : BitVec 128) (parsed : IpAddr.parse literal = some (.v6 bits))

/-- A setting of the form `host` or `host:port`. -/
structure HostSetting where
  /-- The host. -/
  host : SettingHost
  /-- The port, when one is given. -/
  port : Option UInt16

/-- The host without a port. -/
def SettingHost.text : SettingHost → Text
  | .domain name _ _ => name
  | .ipv4 literal _ _ => literal
  | .ipv6 literal _ _ => literal

/-- The host in front of a port: an IPv6 literal stands in brackets. -/
def SettingHost.beforePort : SettingHost → Text
  | .ipv6 literal _ _ => '[' :: (literal ++ [']'])
  | host => host.text

/-- The host is a DNS name. -/
def SettingHost.IsDomain : SettingHost → Prop
  | .domain _ _ _ => True
  | _ => False

/-- The host is an IPv6 literal. -/
def SettingHost.IsIpv6 : SettingHost → Prop
  | .ipv6 _ _ _ => True
  | _ => False

/-- The setting as it is written. -/
def HostSetting.text (setting : HostSetting) : Text :=
  match setting.port with
  | none => setting.host.text
  | some port => setting.host.beforePort ++ ':' :: decimal port.toNat

/-- The hostname is read the same way everywhere: it is a domain exactly when its host is no IP
literal, and the certificate of a domain is ordered for the host and cached under it. -/
structure ReadAlike (bind : Text) (setting : HostSetting) : Prop where
  /-- TLS is used for a domain. -/
  tls : (BridgeConfig.mk bind (some setting.text)).hasTls = true ↔ setting.host.IsDomain
  /-- Port 80 redirects for a domain. -/
  dualPort : (BridgeConfig.mk bind (some setting.text)).isDualPort = true ↔
    (BridgeConfig.mk bind (some setting.text)).parsedBind.2 = 80 ∧ setting.host.IsDomain
  /-- The certificate is one for the host. -/
  certificate : setting.host.IsDomain → ∃ domain,
    (BridgeConfig.mk bind (some setting.text)).acmeDomain = some domain ∧
      orderedNames domain = [setting.host.text] ∧
      cachedNames domain =
        (setting.host.text ++ ".cert.pem".toList, setting.host.text ++ ".key.pem".toList)

/-- The host is no IPv6 literal, and a domain has no port. -/
def SimpleSetting (setting : HostSetting) : Prop :=
  ¬ setting.host.IsIpv6 ∧ (setting.host.IsDomain → setting.port = none)

/-! ## Cutting at the first colon -/

theorem isIpAddress_no_colon {host : Text} (absent : ':' ∉ host) :
    isIpAddress host = (IpAddr.parse host).isSome := by
  have cut := @breakAt_of_not_mem ':' host [] absent (by simp)
  rw [List.append_nil] at cut
  rw [isIpAddress, cut]

theorem isIpAddress_colon {host : Text} (absent : ':' ∉ host) (rest : Text) :
    isIpAddress (host ++ ':' :: rest) = (IpAddr.parse host).isSome := by
  rw [isIpAddress, breakAt_of_not_mem absent (by simp)]

/-- An IPv6 literal is cut where it has its own colons. -/
theorem isIpAddress_v6 {literal : Text} {bits : BitVec 128}
    (parsed : IpAddr.parse literal = some (.v6 bits)) : isIpAddress literal = false := by
  obtain ⟨front, back, rfl, first⟩ :=
    List.eq_append_cons_of_mem (IpAddr.colon_mem_of_v6 parsed)
  rw [isIpAddress_colon first, IpAddr.parse_front_of_v6 first parsed]
  rfl

/-- The brackets do not help. -/
theorem isIpAddress_bracketed (rest : Text) : isIpAddress ('[' :: rest) = false := by
  have cut : (breakAt ':' ('[' :: rest)).1 = '[' :: (breakAt ':' rest).1 := by
    simp [breakAt]
  rw [isIpAddress, cut, IpAddr.parse_bracket]
  rfl

/-- Only an IPv4 literal is recognised as an address. -/
theorem isIpAddress_text (setting : HostSetting) :
    isIpAddress setting.text = true ↔ ¬ setting.host.IsDomain ∧ ¬ setting.host.IsIpv6 := by
  obtain ⟨host, port⟩ := setting
  cases host with
  | domain name no_colon no_literal =>
      refine iff_of_false (fun recognised => ?_) fun other => other.1 trivial
      have cut : isIpAddress (HostSetting.text ⟨.domain name no_colon no_literal, port⟩) =
          (IpAddr.parse name).isSome := by
        cases port with
        | none => exact isIpAddress_no_colon no_colon
        | some port => exact isIpAddress_colon no_colon _
      rw [cut, no_literal] at recognised
      exact absurd recognised Bool.false_ne_true
  | ipv4 literal bits parsed =>
      refine iff_of_true ?_ ⟨id, id⟩
      have no_colon := IpAddr.colon_not_mem_of_v4 parsed
      have cut : isIpAddress (HostSetting.text ⟨.ipv4 literal bits parsed, port⟩) =
          (IpAddr.parse literal).isSome := by
        cases port with
        | none => exact isIpAddress_no_colon no_colon
        | some port => exact isIpAddress_colon no_colon _
      rw [cut, parsed]
      rfl
  | ipv6 literal bits parsed =>
      refine iff_of_false (fun recognised => ?_) fun other => other.2 trivial
      have missed : isIpAddress (HostSetting.text ⟨.ipv6 literal bits parsed, port⟩) = false := by
        cases port with
        | none => exact isIpAddress_v6 parsed
        | some port => exact isIpAddress_bracketed _
      rw [missed] at recognised
      exact absurd recognised Bool.false_ne_true

theorem hasTls_iff (bind : Text) (setting : HostSetting) :
    (BridgeConfig.mk bind (some setting.text)).hasTls = true ↔
      setting.host.IsDomain ∨ setting.host.IsIpv6 := by
  have recognised := isIpAddress_text setting
  rw [BridgeConfig.hasTls, Option.any_some, Bool.not_eq_true', ← Bool.not_eq_true, recognised,
    not_and_or, not_not, not_not]

theorem isDualPort_iff (bind : Text) (setting : HostSetting) :
    (BridgeConfig.mk bind (some setting.text)).isDualPort = true ↔
      (BridgeConfig.mk bind (some setting.text)).parsedBind.2 = 80 ∧
        (setting.host.IsDomain ∨ setting.host.IsIpv6) := by
  rw [← hasTls_iff bind setting, BridgeConfig.isDualPort, Bool.and_eq_true, beq_iff_eq]
  rfl

theorem not_isDomain_of_isIpv6 {host : SettingHost} (ipv6 : host.IsIpv6) : ¬ host.IsDomain := by
  cases host with
  | domain | ipv4 => exact absurd ipv6 id
  | ipv6 => exact id

/-- A setting is read the same way everywhere exactly when it is no IPv6 literal and, for a domain,
has no port. -/
theorem readAlike_iff (bind : Text) (setting : HostSetting) :
    ReadAlike bind setting ↔ SimpleSetting setting := by
  constructor
  · intro alike
    refine ⟨fun ipv6 => ?_, fun domain => ?_⟩
    · have taken := alike.tls.mp ((hasTls_iff bind setting).mpr (Or.inr ipv6))
      exact not_isDomain_of_isIpv6 ipv6 taken
    · obtain ⟨_, passed, ordered, _⟩ := alike.certificate domain
      obtain rfl := Option.some.inj passed
      have same : setting.text = setting.host.text := (List.cons.inj ordered).1
      obtain ⟨host, port⟩ := setting
      cases port with
      | none => rfl
      | some port =>
          cases host with
          | domain name =>
              have lengths := congrArg List.length same
              simp [HostSetting.text, SettingHost.beforePort, SettingHost.text] at lengths
          | ipv4 | ipv6 => exact absurd domain id
  · rintro ⟨not_ipv6, unported⟩
    refine ⟨?_, ?_, fun domain => ?_⟩
    · rw [hasTls_iff, or_iff_left not_ipv6]
    · rw [isDualPort_iff, or_iff_left not_ipv6]
    · have same : setting.text = setting.host.text := by
        rw [HostSetting.text, unported domain]
      exact ⟨setting.text, rfl, congrArg (· :: []) same, by rw [same]; rfl⟩

/-- The setting `bridge.example.com:8443`. -/
def portedDomain : HostSetting where
  host := .domain "bridge.example.com".toList (by decide) (by decide)
  port := some 8443

/-- The setting `[2001:db8::1]:443`. -/
def portedIpv6 : HostSetting where
  host := .ipv6 "2001:db8::1".toList 0x20010db8000000000000000000000001 (by decide)
  port := some 443

/-- A certificate for a domain with a port is ordered for a name with a colon, and an IPv6 address
counts as a domain. -/
theorem settings_misread :
    orderedNames portedDomain.text = ["bridge.example.com:8443".toList] ∧
      ¬ ReadAlike "0.0.0.0:443".toList portedDomain ∧
      (BridgeConfig.mk "0.0.0.0:443".toList (some "[2001:db8::1]:443".toList)).hasTls = true ∧
      ¬ ReadAlike "0.0.0.0:443".toList portedIpv6 := by
  refine ⟨by decide, fun alike => ?_, by decide, fun alike => ?_⟩
  · obtain ⟨_, passed, ordered, _⟩ := alike.certificate trivial
    obtain rfl := Option.some.inj passed
    exact absurd ordered (by decide)
  · exact alike.tls.mp (by decide)

end AimailBridge
