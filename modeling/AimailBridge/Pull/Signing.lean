import AimailBridge.Config.Load
import AimailBridge.Foundation.Digest
import AimailBridge.Foundation.Url
import AimailBridge.Pull.Responses
import AimailBridge.Push.Batch

/-!
# Signed requests

The requests of a pull loop carry a signature over their method, path, time and body.  The path that
is signed is the one below the gateway's root, so that a gateway finds what was signed in what it
receives when the configured URL has no path of its own, and otherwise only by a collision.  This is
for URLs without a query whose path needs no rewriting; which path an HTTP client requests from them
is what the documentation of its URL parser says.
-/

namespace AimailBridge

open Foundation Text Pull

namespace Pull

/-- The milliseconds since the epoch, as they are sent; a clock before the epoch counts as at it. -/
def nowMs (now : Option Nat) : Text :=
  (now.map decimal).getD ['0']

/-- The text that is signed. -/
def signedBase (method path time bodyHash : Text) : Text :=
  method ++ '\n' :: (path ++ '\n' :: (time ++ '\n' :: bodyHash))

/-- The key under which a text is signed. -/
def keyHash (hash : HashCrates) (apiKey : Text) : Text :=
  hexEncode (hash.sha256 (utf8 apiKey))

/-- The signature of a text under a hashed key. -/
def signature (hash : HashCrates) (key base : Text) : Text :=
  hexEncode (hash.hmacSha256 (utf8 key) (utf8 base))

/-- v1 API signature for a gateway request: the time and the signature. -/
def apiSign (hash : HashCrates) (apiKey method path : Text) (body : Bytes) (now : Option Nat) :
    Text × Text :=
  let time := nowMs now
  (time, signature hash (keyHash hash apiKey)
    (signedBase method path time (hexEncode (hash.sha256 body))))

/-- The path of pending deliveries. -/
def pendingPath : Text :=
  "/api/v1/admin/pending".toList

end Pull

/-! ## What a signature binds -/

section Binding

theorem newline_not_mem_nowMs (now : Option Nat) : '\n' ∉ nowMs now := by
  cases now with
  | none => decide
  | some ms => exact not_mem_decimal (by decide)

/-- The text that is signed tells its parts. -/
theorem signedBase_inj {method method' path path' time time' bodyHash bodyHash' : Text}
    (single_method : '\n' ∉ method ∧ '\n' ∉ method') (single_path : '\n' ∉ path ∧ '\n' ∉ path')
    (single_time : '\n' ∉ time ∧ '\n' ∉ time')
    (same : signedBase method path time bodyHash = signedBase method' path' time' bodyHash') :
    method = method' ∧ path = path' ∧ time = time' ∧ bodyHash = bodyHash' := by
  obtain ⟨methods, same⟩ := append_separator_inj single_method.1 single_method.2 same
  obtain ⟨paths, same⟩ := append_separator_inj single_path.1 single_path.2 same
  obtain ⟨times, hashes⟩ := append_separator_inj single_time.1 single_time.2 same
  exact ⟨methods, paths, times, hashes⟩

/-- What is known of two requests with one signature: they are the same, or the codes of their texts
collide, or the hashes of their bodies do. -/
def SameOrColliding (hash : HashCrates) (apiKey method path method' path' : Text)
    (body body' : Bytes) (now now' : Option Nat) : Prop :=
  (method = method' ∧ path = path' ∧ nowMs now = nowMs now' ∧ body = body') ∨
    Collide (hash.hmacSha256 (utf8 (keyHash hash apiKey)))
      (utf8 (signedBase method path (nowMs now) (hexEncode (hash.sha256 body))))
      (utf8 (signedBase method' path' (nowMs now') (hexEncode (hash.sha256 body')))) ∨
    Collide hash.sha256 body body'

/-- A signature belongs to one method, path, time and body: on another request it stands only when
the texts that are signed, or the two bodies, are a collision. -/
theorem apiSign_binds (hash : HashCrates) (apiKey method path method' path' : Text)
    (body body' : Bytes) (now now' : Option Nat) (single_method : '\n' ∉ method ∧ '\n' ∉ method')
    (single_path : '\n' ∉ path ∧ '\n' ∉ path')
    (same : (apiSign hash apiKey method path body now).2 =
      (apiSign hash apiKey method' path' body' now').2) :
    SameOrColliding hash apiKey method path method' path' body body' now now' := by
  have codes := hexEncode_injective same
  by_cases messages : utf8 (signedBase method path (nowMs now) (hexEncode (hash.sha256 body))) =
      utf8 (signedBase method' path' (nowMs now') (hexEncode (hash.sha256 body')))
  · obtain ⟨methods, paths, times, hashes⟩ := signedBase_inj single_method single_path
      ⟨newline_not_mem_nowMs now, newline_not_mem_nowMs now'⟩ (utf8_injective messages)
    by_cases bodies : body = body'
    · exact Or.inl ⟨methods, paths, times, bodies⟩
    · exact Or.inr (Or.inr ⟨bodies, hexEncode_injective hashes⟩)
  · exact Or.inr (Or.inl ⟨messages, codes⟩)

/-- Two polls with one signature: clocks at the epoch and before it count alike. -/
theorem apiSign_binds_sample :
    SameOrColliding ⟨id, fun key message => key ++ message⟩ "k-3f1a".toList "POST".toList
      pendingPath "POST".toList pendingPath (asciiBytes "\x7b\"limit\":50\x7d".toList)
      (asciiBytes "\x7b\"limit\":50\x7d".toList) none (some 0) :=
  apiSign_binds _ _ _ _ _ _ _ _ none (some 0) (by decide) (by decide) rfl

end Binding

/-! ## What a gateway receives -/

/-- A letter, a digit, a hyphen, an underscore or a slash. -/
def isPathChar (c : Char) : Bool :=
  c.isAlphanum || c == '-' || c == '_' || c == '/'

/-- A path that no URL parser rewrites. -/
def PlainPath (path : Text) : Prop :=
  ∀ c ∈ path, isPathChar c = true

/-- The HTTP client's reading of addresses, which is that of the url crate. -/
structure UrlCrate where
  /-- The path and the query that are requested from an address, if it can be parsed. -/
  requestTarget : Text → Option Text

section Addresses

variable {url : Url} {path : Text}

theorem PlainPath.append {back : Text} (plain : PlainPath path) (plain_back : PlainPath back) :
    PlainPath (path ++ back) := fun c member =>
  (List.mem_append.mp member).elim (plain c) (plain_back c)

end Addresses

/-! ## What goes out -/

section Sending

variable {hash : HashCrates} {system : SystemConfig} {url : Url} {own : Text} {body : Bytes}
  {now : Option Nat}

variable {json : JsonCrate} {regex : RegexCrate}

/-- The url crate on addresses with nothing to rewrite: what lies behind the authority. -/
def UrlCrate.plain : UrlCrate where
  requestTarget address :=
    ((stripPrefix Scheme.https.opening address).or (stripPrefix Scheme.http.opening address)).map
      fun rest => rest.dropWhile (! Url.endsAuthority ·)

end Sending

end AimailBridge
