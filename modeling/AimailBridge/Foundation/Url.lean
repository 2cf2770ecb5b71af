import AimailBridge.Foundation.Text

/-!
# Web addresses

An `http` or `https` address consists of a scheme, a host, perhaps a port, and a path.  The host is
a name or a bracketed literal, and its characters are not those that separate the parts.  A client
that posts to an address connects to the explicit port, and otherwise to that of the scheme;
`connectsTo` reads this off the text of the address.
-/

namespace Foundation

open Text

/-- The scheme of a web address. -/
inductive Scheme
  /-- Plain. -/
  | http
  /-- Encrypted. -/
  | https
  deriving DecidableEq

namespace Scheme

/-- The scheme as it is written. -/
def name : Scheme → Text
  | .http => ['h', 't', 't', 'p']
  | .https => ['h', 't', 't', 'p', 's']

/-- The port of an address without one. -/
def defaultPort : Scheme → UInt16
  | .http => 80
  | .https => 443

/-- The scheme with the separator behind it. -/
def opening (scheme : Scheme) : Text :=
  scheme.name ++ [':', '/', '/']

end Scheme

namespace Url

/-- The characters that separate the parts of an address. -/
def delimiters : List Char :=
  [':', '/', '?', '#', '[', ']', '@']

/-- A character that a name may hold. -/
def isNameChar (c : Char) : Bool :=
  !delimiters.contains c && !isWhitespace c

/-- A character that a bracketed literal may hold. -/
def isLiteralChar (c : Char) : Bool :=
  c == ':' || isNameChar c

/-- Where the authority of an address ends. -/
def endsAuthority (c : Char) : Bool :=
  c == '/' || c == '?' || c == '#'

end Url

open Url

/-- The host of an address. -/
inductive UrlHost
  /-- A name, or an IPv4 address. -/
  | name (text : Text) (nonempty : text ≠ []) (plain : ∀ c ∈ text, isNameChar c = true)
  /-- An IPv6 address in brackets. -/
  | literal (address : Text) (plain : ∀ c ∈ address, isLiteralChar c = true)

/-- The digits of a port that fits in sixteen bits. -/
structure UrlPort where
  /-- The digits, perhaps with zeros in front. -/
  digits : Text
  /-- There are only digits. -/
  numeric : ∀ c ∈ digits, c.isDigit = true
  /-- The number they denote. -/
  value : UInt16
  /-- They denote it. -/
  denotes : parseU16 digits = some value

/-- A web address. -/
structure Url where
  /-- The scheme. -/
  scheme : Scheme
  /-- The host. -/
  host : UrlHost
  /-- The port, if one is given. -/
  port : Option UrlPort
  /-- The path. -/
  path : Text
  /-- The path is empty, or begins with a slash. -/
  rooted : ∀ c ∈ path.head?, c = '/'

/-- The host as it is written. -/
def UrlHost.text : UrlHost → Text
  | .name text _ _ => text
  | .literal address _ => '[' :: address ++ [']']

/-- The host is written in brackets. -/
def UrlHost.Bracketed : UrlHost → Prop
  | .name _ _ _ => False
  | .literal _ _ => True

instance : DecidablePred UrlHost.Bracketed
  | .name _ _ _ => .isFalse id
  | .literal _ _ => .isTrue trivial

/-- A port in its shortest form. -/
def UrlPort.ofNumber (port : UInt16) : UrlPort where
  digits := decimal port.toNat
  numeric _ member := isDigit_of_mem_decimal member
  value := port
  denotes := parseU16_decimal port

/-- The host and the port that are written. -/
def authority (host : UrlHost) (port : Option UrlPort) : Text :=
  host.text ++ (port.map fun port => ':' :: port.digits).getD []

namespace Url

/-- The address as it is written. -/
def text (url : Url) : Text :=
  url.scheme.opening ++ (authority url.host url.port ++ url.path)

/-- The host and the port that a client connects to. -/
def endpoint (url : Url) : Text × UInt16 :=
  (url.host.text, (url.port.map UrlPort.value).getD url.scheme.defaultPort)

/-! ## Reading an endpoint -/

/-- Cut an authority behind its host. -/
def cutHost (authority : Text) : Text × Text :=
  match authority with
  | '[' :: _ => ((breakAt ']' authority).1 ++ [']'], (breakAt ']' authority).2.tail)
  | _ => breakAt ':' authority

/-- The host of an authority, with its port or else the given one. -/
def readAuthority (defaultPort : UInt16) (authority : Text) : Option (Text × UInt16) :=
  match cutHost authority with
  | (host, []) => some (host, defaultPort)
  | (host, ':' :: digits) =>
      if digits.all Char.isDigit then (parseU16 digits).map (host, ·) else none
  | _ => none

/-- The endpoint that a client connects to for the text of an address. -/
def connectsTo (address : Text) : Option (Text × UInt16) :=
  match stripPrefix Scheme.https.opening address, stripPrefix Scheme.http.opening address with
  | some rest, _ => readAuthority Scheme.https.defaultPort (rest.takeWhile (!endsAuthority ·))
  | none, some rest => readAuthority Scheme.http.defaultPort (rest.takeWhile (!endsAuthority ·))
  | none, none => none

/-- The scheme decides the port of an address without one. -/
example : connectsTo "https://[::1]/hook".toList = some ("[::1]".toList, 443) := by decide

end Url

/-! ## Characters of an authority -/

theorem isNameChar_spec {c : Char} (plain : isNameChar c = true) :
    c ∉ delimiters ∧ isWhitespace c = false := by
  simpa [isNameChar] using plain

theorem isLiteralChar_spec {c : Char} (plain : isLiteralChar c = true) :
    c ≠ '/' ∧ c ≠ '?' ∧ c ≠ '#' ∧ c ≠ '[' ∧ c ≠ ']' ∧ isWhitespace c = false := by
  rw [isLiteralChar, Bool.or_eq_true, beq_iff_eq] at plain
  rcases plain with rfl | plain
  · decide
  · obtain ⟨no_delimiter, visible⟩ := isNameChar_spec plain
    simp only [delimiters, List.mem_cons, not_or] at no_delimiter
    obtain ⟨_, slash, question, hash, opening, closing, _⟩ := no_delimiter
    exact ⟨slash, question, hash, opening, closing, visible⟩

theorem isDigit_spec {c : Char} (digit : c.isDigit = true) :
    endsAuthority c = false ∧ isWhitespace c = false ∧ c ≠ ':' := by
  simp only [Char.isDigit, Bool.and_eq_true, decide_eq_true_eq, ge_iff_le] at digit
  have lower : 48 ≤ c.toNat := UInt32.le_iff_toNat_le.mp digit.1
  have upper : c.toNat ≤ 57 := UInt32.le_iff_toNat_le.mp digit.2
  have other : ∀ d : Char, d.toNat < 48 ∨ 57 < d.toNat → c ≠ d := by
    rintro d outside rfl
    omega
  refine ⟨?_, ?_, other _ (by decide)⟩
  · simp [endsAuthority, other '/' (by decide), other '?' (by decide), other '#' (by decide)]
  · simp [isWhitespace]
    omega

/-- A host holds no character that ends an authority, and no blank. -/
theorem mem_hostText {host : UrlHost} {c : Char} (member : c ∈ host.text) :
    endsAuthority c = false ∧ isWhitespace c = false := by
  cases host with
  | name text nonempty plain =>
      obtain ⟨no_delimiter, visible⟩ := isNameChar_spec (plain c member)
      simp only [delimiters, List.mem_cons, not_or] at no_delimiter
      exact ⟨by simp [endsAuthority, no_delimiter], visible⟩
  | literal address plain =>
      have cases : c = '[' ∨ c ∈ address ∨ c = ']' := by simpa [UrlHost.text] using member
      rcases cases with rfl | inside | rfl
      · decide
      · obtain ⟨slash, question, hash, _, _, visible⟩ := isLiteralChar_spec (plain c inside)
        exact ⟨by simp [endsAuthority, slash, question, hash], visible⟩
      · decide

/-- The port of an authority, as it is written behind the host. -/
theorem mem_authority {host : UrlHost} {port : Option UrlPort} {c : Char}
    (member : c ∈ authority host port) : endsAuthority c = false ∧ isWhitespace c = false := by
  rw [authority, List.mem_append] at member
  rcases member with inside | behind
  · exact mem_hostText inside
  · cases port with
    | none => simp at behind
    | some port =>
        have cases : c = ':' ∨ c ∈ port.digits := by simpa using behind
        rcases cases with rfl | digit
        · decide
        · obtain ⟨ends, visible, _⟩ := isDigit_spec (port.numeric c digit)
          exact ⟨ends, visible⟩

theorem slash_not_mem_authority (host : UrlHost) (port : Option UrlPort) :
    '/' ∉ authority host port :=
  fun member => absurd (mem_authority member).1 (by decide)

/-! ## Reading back what is written -/

theorem cutHost_authority (host : UrlHost) (port : Option UrlPort) :
    cutHost (authority host port) =
      (host.text, (port.map fun port => ':' :: port.digits).getD []) := by
  have colon : ∀ c ∈ ((port.map fun port => ':' :: port.digits).getD []).head?, c = ':' := by
    cases port with
    | none => simp
    | some port => simp
  rw [authority]
  generalize (port.map fun port => ':' :: port.digits).getD [] = behind at colon
  cases host with
  | name text nonempty plain =>
      have absent : ∀ d ∈ delimiters, d ∉ text := by
        intro d delimiter member
        exact (isNameChar_spec (plain d member)).1 delimiter
      obtain ⟨first, rest, rfl⟩ := List.exists_cons_of_ne_nil nonempty
      have unopened : first ≠ '[' := by
        rintro rfl
        exact absent '[' (by decide) List.mem_cons_self
      have whole := breakAt_of_not_mem (absent ':' (by decide)) colon
      rw [UrlHost.text, cutHost, whole]
      intro tail opened
      exact unopened (List.cons.inj opened).1
  | literal address plain =>
      have absent : ']' ∉ '[' :: address := by
        intro member
        rcases List.mem_cons.mp member with same | inside
        · exact absurd same (by decide)
        · exact (isLiteralChar_spec (plain _ inside)).2.2.2.2.1 rfl
      have closed : ∀ c ∈ (']' :: behind).head?, c = ']' := by simp
      have whole := breakAt_of_not_mem absent closed
      have form : '[' :: address ++ [']'] ++ behind = '[' :: (address ++ ']' :: behind) := by simp
      rw [UrlHost.text, form, cutHost, ← List.cons_append, whole]
      rfl

theorem readAuthority_authority (host : UrlHost) (port : Option UrlPort) (defaultPort : UInt16) :
    readAuthority defaultPort (authority host port) =
      some (host.text, (port.map UrlPort.value).getD defaultPort) := by
  rw [readAuthority, cutHost_authority]
  cases port with
  | none => rfl
  | some port =>
      have digits : port.digits.all Char.isDigit = true := List.all_eq_true.mpr port.numeric
      simp [digits, port.denotes]

theorem takeWhile_authority (host : UrlHost) (port : Option UrlPort) {path : Text}
    (rooted : ∀ c ∈ path.head?, c = '/') :
    (authority host port ++ path).takeWhile (!endsAuthority ·) = authority host port := by
  have kept : ∀ c ∈ authority host port, (!endsAuthority c) = true :=
    fun c member => by simp [(mem_authority member).1]
  have stops : path.takeWhile (!endsAuthority ·) = [] := by
    cases path with
    | nil => rfl
    | cons c cs =>
        obtain rfl := rooted c rfl
        simp [endsAuthority]
  rw [List.takeWhile_append_of_pos kept, stops, List.append_nil]

/-- What is read off the text of an address is where a client of the address connects to. -/
theorem Url.connectsTo_text (url : Url) : connectsTo url.text = some url.endpoint := by
  have not_https : ∀ rest,
      stripPrefix Scheme.https.opening (Scheme.http.opening ++ rest) = none := by
    intro rest
    rw [stripPrefix_eq_none]
    rintro ⟨back, same⟩
    simp [Scheme.opening, Scheme.name] at same
  rw [Url.text, endpoint]
  cases url.scheme with
  | http =>
      simp only [connectsTo, not_https, stripPrefix_append, takeWhile_authority _ _ url.rooted,
        readAuthority_authority]
  | https =>
      simp only [connectsTo, stripPrefix_append, takeWhile_authority _ _ url.rooted,
        readAuthority_authority]

/-! ## Blanks -/

/-- The address without the blanks at the end of its path. -/
def Url.trimmed (url : Url) : Url where
  scheme := url.scheme
  host := url.host
  port := url.port
  path := url.path.rdropWhile isWhitespace
  rooted := by
    intro c first
    refine url.rooted c ?_
    obtain ⟨rest, whole⟩ := List.rdropWhile_prefix isWhitespace url.path
    rw [← whole, List.head?_append, Option.mem_def.mp first]
    rfl

/-- Trimming an address takes blanks off its path only. -/
theorem Url.trim_text (url : Url) : trim url.text = url.trimmed.text := by
  have opening_visible : ∀ c ∈ url.scheme.opening, isWhitespace c = false := by
    have none_blank : url.scheme.opening.any isWhitespace = false := by
      cases url.scheme with
      | http => rfl
      | https => rfl
    simpa using none_blank
  have visible : ∀ c ∈ url.scheme.opening ++ authority url.host url.port,
      isWhitespace c = false := by
    intro c member
    rcases List.mem_append.mp member with opening | inside
    · exact opening_visible c opening
    · exact (mem_authority inside).2
  have front_tight : ¬ startsBlank url.text := by
    rw [Url.text]
    cases url.scheme with
    | http => exact fun blank => absurd (startsBlank_cons.mp blank) (by decide)
    | https => exact fun blank => absurd (startsBlank_cons.mp blank) (by decide)
  have back_tight : ¬ endsBlank (url.scheme.opening ++ authority url.host url.port) := by
    rintro ⟨c, last, blank⟩
    simp [visible c (List.mem_of_getLast? last)] at blank
  rw [trim, dropWhile_of_not_startsBlank front_tight, Url.text, ← List.append_assoc,
    rdropWhile_append back_tight, List.append_assoc]
  rfl

@[simp]
theorem Url.endpoint_trimmed (url : Url) : url.trimmed.endpoint = url.endpoint := rfl

end Foundation
