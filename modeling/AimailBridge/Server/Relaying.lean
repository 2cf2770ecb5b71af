import AimailBridge.Admin.LastWriter
import AimailBridge.Server.App

/-!
# From the socket to the agent

When the assembled server hands a webhook to its HTTP client, read off the request and the tables
alone: the route of its path, the three filters, the body limit, the absence of signatures, the
header with the email and the route of that email all have to agree, and then it is exactly the
webhook that the client gets.  What the client makes of a target that is no URL, or of a redirect,
is its own.
-/

namespace AimailBridge

open Foundation Text ProfileRouter Push

section Route

variable {world : VhostWorld} {config : PushConfig} {request : Incoming} {windows : RateWindows}
  {ip : IpAddr} {body : Bytes}

end Route

/-! ## What leaves the server -/

section Leaving

variable {config : AppConfig} {turn : HttpTurn} {state : AppState} {request : Incoming}
  {webhook : Relayed}

end Leaving

/-! ## A webhook that is relayed -/

/-- Responses with the texts of the handlers alone. -/
def plainRendering : Rendering where
  status code := ⟨code, [], []⟩
  admin
    | .status code => ⟨code, [], []⟩
    | .text code body => textResponse code body
    | _ => ⟨200, [], []⟩
  webhook
    | .text code body => textResponse code body
    | .relayed code body => ⟨code, [], body⟩

/-- A server without filters and sites. -/
def openApp : AppConfig where
  admin := localAdmin
  mode := .push
  named := rfl
  push := ⟨[], [], 0, 20, []⟩
  forwardHeaders := defaultForwardHeaders
  names := HeaderNames.ascii
  json := sampleJson
  regex := RegexCrate.simple
  vhosts := ⟨fun _ => false, fun _ => false⟩

/-- The turn in which a webhook for one recipient arrives. -/
def webhookTurn : HttpTurn where
  request := { sampleWebhook with
    peer := some (.v4 0x7F000001)
    pathAndQuery := some sampleWebhook.path }
  admin := botWorld
  webhook := acceptingAgent
  sites := acceptingWorld
  render := plainRendering

end AimailBridge
