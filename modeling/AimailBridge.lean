import AimailBridge.Foundation.Text
import AimailBridge.Foundation.HashMap
import AimailBridge.Foundation.Interleaving
import AimailBridge.Foundation.Runs
import AimailBridge.Foundation.Simulation
import AimailBridge.Foundation.Expiring
import AimailBridge.Foundation.Json
import AimailBridge.Foundation.Members
import AimailBridge.Foundation.Nesting
import AimailBridge.Foundation.JsonText
import AimailBridge.Foundation.Http
import AimailBridge.Foundation.JsonSpelling
import AimailBridge.Foundation.IpAddr
import AimailBridge.Foundation.IpLiteral
import AimailBridge.Foundation.IpText
import AimailBridge.Foundation.SocketAddr
import AimailBridge.Foundation.Prefix
import AimailBridge.Foundation.FixedWindow
import AimailBridge.Foundation.Routing
import AimailBridge.Foundation.Digest
import AimailBridge.Foundation.Headers
import AimailBridge.Foundation.Assembly
import AimailBridge.Foundation.Files
import AimailBridge.Foundation.Path
import AimailBridge.Foundation.Pattern
import AimailBridge.Foundation.Toml
import AimailBridge.Foundation.Url
import AimailBridge.Router.Route
import AimailBridge.Router.Table
import AimailBridge.Router.Persistence
import AimailBridge.Router.RoundTrip
import AimailBridge.Router.NormalForms
import AimailBridge.Router.PatternRoutes
import AimailBridge.Router.Generated
import AimailBridge.Router.Reload
import AimailBridge.Router.Restart
import AimailBridge.Router.Determinism
import AimailBridge.Router.Durability
import AimailBridge.Router.Registration
import AimailBridge.Router.Transparency
import AimailBridge.Concurrent.Lookups
import AimailBridge.Concurrent.Registrations
import AimailBridge.Concurrent.Watcher
import AimailBridge.Concurrent.Convergence
import AimailBridge.Health.Check
import AimailBridge.Health.Endpoint
import AimailBridge.Health.Round
import AimailBridge.Health.Probing
import AimailBridge.Health.Streak
import AimailBridge.Health.DeadTargets
import AimailBridge.Health.Reregistration
import AimailBridge.Security.Cidr
import AimailBridge.Push.Batch
import AimailBridge.Push.FanOut
import AimailBridge.Push.Verbatim
import AimailBridge.Push.Filters
import AimailBridge.Push.RateLimit
import AimailBridge.Push.Windows
import AimailBridge.Push.Vhost
import AimailBridge.Push.Webhook
import AimailBridge.Push.Sites
import AimailBridge.Push.Server
import AimailBridge.Push.Coverage
import AimailBridge.Push.Order
import AimailBridge.Config.Load
import AimailBridge.Config.CommandLine
import AimailBridge.Pull.Signing
import AimailBridge.Server.App
import AimailBridge.Server.Relaying
import AimailBridge.Server.Backends
import AimailBridge.Server.Outsiders
import AimailBridge.Server.Bridge
import AimailBridge.Server.Systems
import AimailBridge.Server.Startup
import AimailBridge.Admin.Api
import AimailBridge.Admin.LastWriter
import AimailBridge.Security.Prefixes
import AimailBridge.Security.Allowlists
import AimailBridge.Security.Ranges
import AimailBridge.Pull.Loop
import AimailBridge.Pull.Safety
import AimailBridge.Pull.Requests
import AimailBridge.Pull.Responses
import AimailBridge.Pull.Faithful
import AimailBridge.Pull.Backoff
import AimailBridge.Tls.Acme
import AimailBridge.Tls.Freshness
import AimailBridge.Tls.Interrupted
import AimailBridge.Tls.Challenge
import AimailBridge.Tls.Order
import AimailBridge.Tls.Account
import AimailBridge.Tls.Hostname
