import AimailBridge.Foundation.Path
import AimailBridge.Push.Vhost

/-!
# What virtual hosts answer

A static site reads files of its root directory, a proxy sends the request on to its backend, and a
redirect names another URL.  An outcome holds the response together with what was read and sent on
the way to it.  Static sites never read outside of their root, while a proxy replaces a body that it
cannot read to its end by an empty one.
-/

namespace AimailBridge

open Foundation Text Path

/-- A request to a virtual host. -/
structure SiteRequest extends Incoming where
  /-- Path of the URI with its query, unless the URI has neither. -/
  pathAndQuery : Option Text

/-- A response of a virtual host. -/
structure SiteResponse where
  /-- Status code. -/
  status : UInt16
  /-- Headers in the order they were added. -/
  headers : List (Text × Bytes)
  /-- Body. -/
  body : Bytes
  deriving DecidableEq

/-- A request that a proxy hands to its client. -/
structure Forwarded where
  /-- Method. -/
  method : Method
  /-- URL. -/
  url : Text
  /-- Headers, their names in lower case. -/
  headers : List (Text × Bytes)
  /-- Body. -/
  body : Bytes
  deriving DecidableEq

/-- What a virtual host does on the way to its response. -/
inductive SiteEffect
  /-- It reads a file, or finds none. -/
  | read (file : Text)
  /-- It sends a request. -/
  | send (request : Forwarded)
  deriving DecidableEq

/-- What files and other servers hold for a virtual host. -/
structure SiteWorld where
  /-- `tokio::fs::read`. -/
  readFile : Text → Option Bytes
  /-- `Redirect::permanent`, as a response. -/
  permanent : Text → SiteResponse
  /-- Whether a request to a URL gets out: the URL is valid, and its server can be reached. -/
  connects : Text → Bool
  /-- What the HTTP client returns for a request that got out, if it returns anything; redirects it
  has followed by then. -/
  answer : Forwarded → Option SiteResponse

/-! ## Static sites -/

/-- A response with a text. -/
def textResponse (status : UInt16) (text : Text) : SiteResponse :=
  ⟨status, [], asciiBytes text⟩

/-- A response with the data of a file. -/
def fileResponse (mime : Text) (data : Bytes) : SiteResponse :=
  ⟨200, [("content-type".toList, asciiBytes mime)], data⟩

/-- The content type of a file, by the end of its name. -/
def mimeOf (file : Text) : Text :=
  if ".html".toList.isSuffixOf file then "text/html; charset=utf-8".toList
  else if ".css".toList.isSuffixOf file then "text/css; charset=utf-8".toList
  else if ".js".toList.isSuffixOf file then "application/javascript".toList
  else "application/octet-stream".toList

/-- The file that a static site looks up for a path. -/
def sitePath (root path : Text) : Text :=
  if path = ['/'] ∨ path = [] then join root "index.html".toList
  else join root (trimStartMatches '/' path)

/-- Serve a file of the root directory, or else its index. -/
def serveStatic (world : SiteWorld) (root path : Text) : SiteResponse × List SiteEffect :=
  let clean := trimStartMatches '/' path
  -- Security: block path traversal before joining
  if ['.', '.'] <:+: clean then (textResponse 403 "forbidden".toList, [])
  else
    let file := sitePath root path
    -- Security: ensure resolved path is within root_dir
    if startsWith file root = false then (textResponse 403 "forbidden".toList, [])
    else
      match world.readFile file with
      | some data => (fileResponse (mimeOf file) data, [.read file])
      | none =>
          -- Try SPA fallback: serve index.html for any unmatched path
          let index := join root "index.html".toList
          match world.readFile index with
          | some data =>
              (fileResponse "text/html; charset=utf-8".toList data, [.read file, .read index])
          | none => (textResponse 404 "not found".toList, [.read file, .read index])

/-! ## Proxies -/

/-- The headers that a proxy sends on. -/
def proxiedHeaders (request : Incoming) (clientIp : Option IpAddr) : List (Text × Bytes) :=
  let unknown := asciiBytes "unknown".toList
  -- Save original Host as X-Forwarded-Host, then remove it.
  let originalHost := ((request.header "host".toList).bind toStr).getD []
  let clientText := (clientIp.map IpAddr.display).getD "unknown".toList
  let headers := removeHeader "host".toList request.headers
  let headers := insertHeader "x-forwarded-host".toList ((headerValue originalHost).getD unknown)
    headers
  let headers := insertHeader "x-forwarded-proto".toList (asciiBytes "https".toList) headers
  insertHeader "x-forwarded-for".toList ((headerValue clientText).getD unknown) headers

/-- The largest body that a proxy reads. -/
def proxyLimit (bodyLimitMb : UInt32) : Nat :=
  bodyLimitMb.toNat * 1024 * 1024

/-- The URL that a proxy sends a request to. -/
def proxyUrl (backend : Text) (request : SiteRequest) : Text :=
  backend ++ request.pathAndQuery.getD ['/']

/-- The request that a proxy sends. -/
def proxied (backend : Text) (request : SiteRequest) (clientIp : Option IpAddr)
    (bodyLimitMb : UInt32) : Forwarded where
  method := request.method
  url := proxyUrl backend request
  headers := proxiedHeaders request.toIncoming clientIp
  -- a body that cannot be read is an empty one
  body := (request.toBytes (proxyLimit bodyLimitMb)).getD []

/-- Headers about a single connection. -/
def hopByHop : List Text :=
  ["transfer-encoding".toList, "connection".toList, "keep-alive".toList,
    "proxy-authenticate".toList, "proxy-authorization".toList, "te".toList, "trailer".toList,
    "upgrade".toList]

/-- Send a request on to the backend, and its response back. -/
def serveProxy (world : SiteWorld) (backend : Text) (request : SiteRequest)
    (clientIp : Option IpAddr) (bodyLimitMb : UInt32) : SiteResponse × List SiteEffect :=
  let forwarded := proxied backend request clientIp bodyLimitMb
  let badGateway := textResponse 502 "bad gateway".toList
  if world.connects forwarded.url then
    match world.answer forwarded with
    | some response =>
        -- Copy safe headers (skip hop-by-hop headers only)
        let headers := response.headers.filter fun header => ! hopByHop.contains header.1
        ({ response with headers }, [.send forwarded])
    | none => (badGateway, [.send forwarded])
  else (badGateway, [])

/-- Handle a request via the given route. -/
def handleVhost (world : SiteWorld) (route : VhostRoute) (request : SiteRequest)
    (clientIp : Option IpAddr) (bodyLimitMb : UInt32) : SiteResponse × List SiteEffect :=
  match route with
  | .redirect url => (world.permanent url, [])
  | .static root => serveStatic world root request.path
  | .proxy backend => serveProxy world backend request clientIp bodyLimitMb

variable {world : SiteWorld} {root path backend file : Text} {request : SiteRequest}
  {clientIp : Option IpAddr} {bodyLimitMb : UInt32}

/-! ## Static sites stay in their root -/

theorem isAbsolute_trimStartMatches (path : Text) :
    isAbsolute (trimStartMatches '/' path) = false := by
  have first := List.head?_dropWhile_not (· = '/') path
  rw [isAbsolute, trimStartMatches, decide_eq_false_iff_not]
  intro slash
  simp [slash] at first

theorem below_index (root : Text) : Below root (join root "index.html".toList) :=
  below_join root rfl (by decide)

/-- A path in which no two dots follow each other names a file below the root. -/
theorem below_sitePath (root : Text) (straight : ¬ ['.', '.'] <:+: trimStartMatches '/' path) :
    Below root (sitePath root path) := by
  rw [sitePath]
  split
  · exact below_index root
  · exact below_join root (isAbsolute_trimStartMatches path) straight

/-- The test on the components never refuses what the test on the characters lets pass. -/
theorem startsWith_sitePath (root : Text)
    (straight : ¬ ['.', '.'] <:+: trimStartMatches '/' path) :
    startsWith (sitePath root path) root = true :=
  (below_sitePath root straight).startsWith

theorem serveStatic_dotted (dotted : ['.', '.'] <:+: trimStartMatches '/' path) :
    serveStatic world root path = (textResponse 403 "forbidden".toList, []) := by
  rw [serveStatic, if_pos dotted]

/-- For any other path, a static site reads the file of the path and perhaps the index. -/
theorem serveStatic_straight (straight : ¬ ['.', '.'] <:+: trimStartMatches '/' path)
    {effect : SiteEffect} (reads : effect ∈ (serveStatic world root path).2) :
    effect = .read (sitePath root path) ∨ effect = .read (join root "index.html".toList) := by
  have passes : ¬ startsWith (sitePath root path) root = false := by
    simp [startsWith_sitePath root straight]
  rw [serveStatic, if_neg straight] at reads
  dsimp only at reads
  rw [if_neg passes] at reads
  split at reads
  · exact Or.inl (List.mem_singleton.mp reads)
  · split at reads <;> simpa using reads

theorem below_of_read (reads : .read file ∈ (serveStatic world root path).2) :
    Below root file := by
  rcases Classical.em (['.', '.'] <:+: trimStartMatches '/' path) with dotted | straight
  · rw [serveStatic_dotted dotted] at reads
    exact absurd reads List.not_mem_nil
  · rcases serveStatic_straight straight reads with same | index
    · rw [SiteEffect.read.inj same]
      exact below_sitePath root straight
    · rw [SiteEffect.read.inj index]
      exact below_index root

/-- Static sites never leave their root: every file they read is the root followed by components
that only descend, and a path for which this would fail is forbidden and reads nothing. -/
theorem static_stays_below (world : SiteWorld) (root : Text) (request : SiteRequest)
    (clientIp : Option IpAddr) (bodyLimitMb : UInt32) :
    (∀ file, .read file ∈ (handleVhost world (.static root) request clientIp bodyLimitMb).2 →
      Below root file) ∧
    (¬ Below root (sitePath root request.path) →
      handleVhost world (.static root) request clientIp bodyLimitMb =
        (textResponse 403 "forbidden".toList, [])) := by
  refine ⟨fun file reads => below_of_read reads, fun outside => serveStatic_dotted ?_⟩
  by_contra straight
  exact outside (below_sitePath root straight)

example : serveStatic world root "/../etc/passwd".toList =
    (textResponse 403 "forbidden".toList, []) :=
  serveStatic_dotted (by decide)

/-- Wherever relative paths begin, a file that a static site reads lies inside its root. -/
theorem inside_of_read (place : List Text)
    (reads : .read file ∈ (handleVhost world (.static root) request clientIp bodyLimitMb).2) :
    walk place (components root) <+: walk place (components file) :=
  (below_of_read reads).inside place

/-! ## Bodies of proxied requests -/

/-- The whole body of the client, if all of it arrives. -/
def completeBody (request : Incoming) : Option Bytes :=
  if request.interrupted then none else some request.body

/-- The body is sent on as it is, or the client is answered with an error and nothing is sent. -/
def KeepsBody (request : SiteRequest) (outcome : SiteResponse × List SiteEffect) : Prop :=
  (∃ sent : Forwarded, outcome.2 = [.send sent] ∧
    completeBody request.toIncoming = some sent.body) ∨
  (400 ≤ outcome.1.status ∧ outcome.2 = [])

/-- The body arrives whole, and is no larger than a proxy reads. -/
def BodyReadable (request : SiteRequest) (bodyLimitMb : UInt32) : Prop :=
  request.body.length ≤ proxyLimit bodyLimitMb ∧ request.interrupted = false

theorem serveProxy_unconnected (unconnected : world.connects (proxyUrl backend request) = false) :
    serveProxy world backend request clientIp bodyLimitMb =
      (textResponse 502 "bad gateway".toList, []) := by
  rw [serveProxy]
  exact if_neg (by simpa [proxied] using unconnected)

theorem serveProxy_sends (connected : world.connects (proxyUrl backend request) = true) :
    (serveProxy world backend request clientIp bodyLimitMb).2 =
      [.send (proxied backend request clientIp bodyLimitMb)] := by
  rw [serveProxy, if_pos (by simpa [proxied] using connected)]
  split <;> rfl

/-- Of all bodies, only those that can be read are sent on as they are. -/
theorem completeBody_proxied :
    completeBody request.toIncoming =
        some (proxied backend request clientIp bodyLimitMb).body ↔
      BodyReadable request bodyLimitMb := by
  rw [completeBody, proxied, BodyReadable, Incoming.toBytes]
  cases broken : request.interrupted with
  | true => simp
  | false =>
      by_cases long : proxyLimit bodyLimitMb < request.body.length
      · have not_empty : request.body ≠ [] := List.ne_nil_of_length_pos (by omega)
        simp [long, not_empty, Nat.not_le.mpr long]
      · simp [long, Nat.not_lt.mp long]

theorem keepsBody_serveProxy (connected : world.connects (proxyUrl backend request) = true) :
    KeepsBody request (serveProxy world backend request clientIp bodyLimitMb) ↔
      BodyReadable request bodyLimitMb := by
  rw [KeepsBody, serveProxy_sends connected, ← @completeBody_proxied backend request clientIp]
  constructor
  · rintro (⟨sent, same, complete⟩ | ⟨_, nothing⟩)
    · rw [complete, ← SiteEffect.send.inj (List.cons.inj same).1]
    · exact absurd nothing (List.cons_ne_nil _ _)
  · intro complete
    exact Or.inl ⟨_, rfl, complete⟩

/-- A proxy keeps to the body of the client when it can read that body, and otherwise only where no
request to its backend gets out. -/
theorem keepsBody_iff (world : SiteWorld) (backend : Text) (request : SiteRequest)
    (clientIp : Option IpAddr) (bodyLimitMb : UInt32) :
    KeepsBody request (handleVhost world (.proxy backend) request clientIp bodyLimitMb) ↔
      BodyReadable request bodyLimitMb ∨ world.connects (proxyUrl backend request) = false := by
  rw [handleVhost]
  cases connected : world.connects (proxyUrl backend request) with
  | true => simp [keepsBody_serveProxy connected]
  | false =>
      rw [serveProxy_unconnected connected]
      exact iff_of_true (Or.inr ⟨by decide, rfl⟩) (Or.inr rfl)

/-- A backend that takes every request. -/
def acceptingWorld : SiteWorld where
  readFile _ := none
  permanent _ := ⟨308, [], []⟩
  connects _ := true
  answer _ := some ⟨200, [], []⟩

/-- An upload of one byte more than a mebibyte. -/
def largeUpload : SiteRequest where
  method := .post
  path := "/upload".toList
  uriHost := none
  headers := [("host".toList, asciiBytes "files.example.com".toList),
    ("transfer-encoding".toList, asciiBytes "chunked".toList)]
  body := List.replicate 1048577 7
  interrupted := false
  peer := none
  bodyLimit := none
  arrival := 0
  pathAndQuery := some "/upload".toList

/-- With a limit of one mebibyte, the upload reaches the backend without its body. -/
theorem upload_emptied :
    (∃ sent : Forwarded, (handleVhost acceptingWorld (.proxy "http://127.0.0.1:9000".toList)
        largeUpload none 1).2 = [.send sent] ∧ sent.body = []) ∧
      ¬ KeepsBody largeUpload (handleVhost acceptingWorld
        (.proxy "http://127.0.0.1:9000".toList) largeUpload none 1) := by
  have too_long : ¬ BodyReadable largeUpload 1 := by
    rw [BodyReadable, largeUpload, List.length_replicate]
    decide
  have unread : largeUpload.toBytes (proxyLimit 1) = none := by
    refine if_pos (Or.inl ?_)
    rw [largeUpload, List.length_replicate]
    decide
  refine ⟨⟨_, serveProxy_sends rfl, ?_⟩, fun keeps => ?_⟩
  · rw [proxied, unread]
    rfl
  · exact too_long ((keepsBody_serveProxy rfl).mp keeps)

end AimailBridge
