import AimailBridge.Pull.Loop

/-!
# Loading the configuration

The environment overrides what the file says, and URLs without the separator of a scheme are given
one.  The overrides of the pull settings reach a pull loop only when the file lists no systems of
its own.
-/

namespace AimailBridge

open Foundation Text

/-- One pull target with its keys. -/
structure SystemConfig extends PullSystemConfig where
  /-- Legacy key. -/
  adminKey : Text
  /-- Key. -/
  apiKey : Text

/-- The pull settings. -/
structure PullConfig where
  /-- Base URL of the relay. -/
  amailUrl : Text
  /-- Legacy key. -/
  adminKey : Text
  /-- Key. -/
  apiKey : Text
  /-- Seconds between two cycles. -/
  pollIntervalSec : UInt64
  /-- Identity. -/
  systemId : Text
  /-- The systems, when there are several. -/
  systems : List SystemConfig

/-- The settings that loading touches. -/
structure FileConfig where
  /-- Mode. -/
  mode : Text
  /-- Public hostname. -/
  hostname : Option Text
  /-- Allowlist of the push server. -/
  allowedIps : List Text
  /-- Home of the profiles. -/
  hermesHome : Option Text
  /-- The pull settings. -/
  pull : PullConfig

/-- Environment variables that hold a text. -/
abbrev Environment := Text → Option Text

/-- `str::parse::<u64>`. -/
def parseU64 (s : Text) : Option UInt64 :=
  (parseUnsigned UInt64.size s).map UInt64.ofFin

/-- Environment variable overrides. -/
def applyEnvironment (env : Environment) (cfg : FileConfig) : FileConfig :=
  let pull := cfg.pull
  { mode := (env "AIMAIL_BRIDGE_MODE".toList).getD cfg.mode
    hostname :=
      match env "AIMAIL_BRIDGE_HOSTNAME".toList with
      -- an empty variable does not count
      | some v => if v ≠ [] then some v else cfg.hostname
      | none => cfg.hostname
    allowedIps := ((env "AIMAIL_BRIDGE_ALLOWED_IPS".toList).map fun v =>
      (v.splitOn ',').map trim).getD cfg.allowedIps
    hermesHome := (env "HERMES_HOME".toList).or cfg.hermesHome
    pull := { pull with
      amailUrl := (env "AIMAIL_GATEWAY_URL".toList).getD pull.amailUrl
      adminKey := (env "AIMAIL_BRIDGE_ADMIN_KEY".toList).getD pull.adminKey
      systemId := (env "AIMAIL_BRIDGE_SYSTEM_ID".toList).getD pull.systemId
      pollIntervalSec := ((env "AIMAIL_BRIDGE_POLL_SECS".toList).map fun v =>
        (parseU64 v).getD 10).getD pull.pollIntervalSec } }

/-- A URL with the separator of a scheme somewhere in it, if there is any URL. -/
def normalizeUrl (url : Text) : Text :=
  if ¬ "://".toList <:+: url ∧ url ≠ [] then "http://".toList ++ url else url

/-- Give the URLs of the relays a scheme. -/
def normalizeUrls (cfg : FileConfig) : FileConfig :=
  { cfg with
    pull := { cfg.pull with
      amailUrl := normalizeUrl cfg.pull.amailUrl
      systems := cfg.pull.systems.map fun system =>
        { system with amailUrl := normalizeUrl system.amailUrl } } }

/-- Load the settings from what is read of the file, then apply the environment. -/
def load (file : Except Text FileConfig) (env : Environment) : Except Text FileConfig :=
  file.map fun cfg => normalizeUrls (applyEnvironment env cfg)

/-! ## URLs -/

variable {cfg : FileConfig} {env : Environment}

end AimailBridge
