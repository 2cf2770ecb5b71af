import AimailBridge.Foundation.Routing

/-!
# Virtual hosts

Each site of the configuration is a directory of static files, a reverse proxy or a redirect.  The
host that a request names picks the site.
-/

namespace AimailBridge

open Foundation Text

/-- A site of the configuration. -/
structure VhostSiteConfig where
  /-- Domain. -/
  domain : Text
  /-- Directory of static files. -/
  root : Option Text
  /-- Backend of a reverse proxy. -/
  proxy : Option Text
  /-- URL to redirect to. -/
  redirect : Option Text
  deriving DecidableEq

/-- A resolved virtual host route. -/
inductive VhostRoute
  /-- Serve static files from the directory. -/
  | static (root : Text)
  /-- Reverse-proxy requests to the backend URL. -/
  | proxy (backend : Text)
  /-- Redirect all requests to the URL. -/
  | redirect (url : Text)
  deriving DecidableEq

/-- What building the routes finds out about its surroundings. -/
structure VhostWorld where
  /-- Whether a path exists. -/
  pathExists : Text → Bool
  /-- Whether the client of a site's proxy can be built. -/
  clientBuilds : VhostSiteConfig → Bool

/-- The route of a site, unless the site is skipped. -/
def buildRoute (world : VhostWorld) (config : VhostSiteConfig) : Option VhostRoute :=
  match config.root, config.proxy, config.redirect with
  | some root, none, none => if world.pathExists root then some (.static root) else none
  | none, some proxy, none =>
      if world.clientBuilds config then some (.proxy ("http://".toList ++ proxy)) else none
  | none, none, some redirect => some (.redirect redirect)
  -- a vhost must have exactly one of root, proxy, or redirect
  | _, _, _ => none

/-- Build ready-to-use routes from config entries. -/
def buildRoutes (world : VhostWorld) (configs : List VhostSiteConfig) : List (Text × VhostRoute) :=
  configs.filterMap fun config => (buildRoute world config).map (config.domain, ·)

/-- `str::eq_ignore_ascii_case`. -/
def eqIgnoreAsciiCase (left right : Text) : Bool :=
  left.map Char.toLower = right.map Char.toLower

/-- The first route of a domain. -/
def routeOfDomain (routes : List (Text × VhostRoute)) (host : Text) : Option VhostRoute :=
  (routes.find? fun (domain, _) => eqIgnoreAsciiCase host domain).map Prod.snd

/-- Try to route a request to a virtual host: by its `Host` header, by the `:authority`
pseudo-header, or else by the host of its URI. -/
def findVhost (request : Incoming) (routes : List (Text × VhostRoute)) : Option VhostRoute :=
  let named := ((request.header "host".toList).bind toStr).or
    ((request.header ":authority".toList).bind toStr)
  let host := (named.map fun s => ((rsplitOnce ':' s).map Prod.fst).getD s).getD []
  if host = [] then request.uriHost.bind (routeOfDomain routes)
  else routeOfDomain routes host

theorem findVhost_nil (request : Incoming) : findVhost request [] = none := by
  have no_domain : routeOfDomain [] = fun _ => none := rfl
  rw [findVhost, no_domain]
  split
  · exact Option.bind_fun_none request.uriHost
  · rfl

end AimailBridge
