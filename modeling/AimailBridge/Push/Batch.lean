import AimailBridge.Foundation.Http
import AimailBridge.Router.Table

/-!
# Batch webhooks

A batch payload lists its recipients in a `signatures` array; the bridge sends each of them the
payload without the array, with headers of its own.  Header names from the configuration are
normalised to lower case before they are compared with mixed-case names, so only the content type
is ever sent.
-/

namespace AimailBridge

open Foundation Text ProfileRouter

namespace Push

/-- The header names the push server keeps from its configuration. -/
def forwardHeaders (names : HeaderNames) (config : List Text) : List Text :=
  config.filterMap names.fromBytes

/-- The header names forwarded by default. -/
def defaultForwardHeaders : List Text :=
  ["X-AIMail-Email".toList, "X-AIMail-Timestamp".toList, "X-Amail-Email".toList,
    "X-Mailrelay-Timestamp".toList, "X-Webhook-Signature".toList, "content-type".toList]

/-- Map a forward header name to its output name and value for a batch entry. -/
def batchHeaderValue (name email sig ts : Text) : Option (Text × Text) :=
  if name = "X-AIMail-Email".toList ∨ name = "X-Amail-Email".toList then
    some ("X-AIMail-Email".toList, email)
  else if name = "X-Webhook-Signature".toList then some ("X-Webhook-Signature".toList, sig)
  else if name = "X-AIMail-Timestamp".toList ∨ name = "X-Mailrelay-Timestamp".toList then
    some ("X-AIMail-Timestamp".toList, ts)
  else if name = "content-type".toList then some ("content-type".toList, "application/json".toList)
  else none

/-- Add the header for one forward name, unless its output name has been emitted already. -/
def emitHeader (email sig ts : Text) (state : List Text × List (Text × Text)) (name : Text) :
    List Text × List (Text × Text) :=
  match batchHeaderValue name email sig ts with
  | some (output, value) =>
      if output ∈ state.1 then state else (output :: state.1, state.2 ++ [(output, value)])
  | none => state

/-- The headers of one entry's request: each output name at most once. -/
def batchHeaders (forward : List Text) (email sig ts : Text) : List (Text × Text) :=
  (forward.foldl (emitHeader email sig ts) ([], [])).2

/-- What other tasks and the network contribute while one entry is handled. -/
structure EntryTurn where
  /-- What other tasks do to the router before the entry is looked up. -/
  change : ProfileRouter → ProfileRouter
  /-- How the entry's request ends. -/
  answer : Answer

/-- What became of one entry. -/
structure EntryLog where
  /-- The entry. -/
  entry : Json
  /-- The route of its email, when the entry has one and it is routed. -/
  route : Option ProfileRoute
  /-- The request sent for it. -/
  request : Option Request
  /-- Whether it counts as delivered. -/
  delivered : Bool

/-- Handle one entry of the `signatures` array. -/
def handleEntry (regex : RegexCrate) (forward : List Text) (body : Bytes) (turn : EntryTurn)
    (router : ProfileRouter) (entry : Json) : ProfileRouter × EntryLog :=
  match (entry.index "email".toList).asStr with
  | none => (turn.change router, { entry, route := none, request := none, delivered := false })
  | some email =>
      match lookup regex (turn.change router) email with
      | (none, router) => (router, { entry, route := none, request := none, delivered := false })
      | (some route, router) =>
          let sig := ((entry.index "signature".toList).asStr).getD []
          let ts := ((entry.index "timestamp".toList).asStr).getD []
          (router, {
            entry
            route := some route
            request := some { target := route.targetUrl
                              headers := batchHeaders forward email sig ts
                              body := body }
            delivered := turn.answer.isSuccess })

/-- Handle the entries in order, each in its own turn. -/
def handleEntries (regex : RegexCrate) (forward : List Text) (body : Bytes) :
    (Nat → EntryTurn) → ProfileRouter → List Json → ProfileRouter × List EntryLog
  | _, router, [] => (router, [])
  | turns, router, entry :: entries =>
      let (router, log) := handleEntry regex forward body (turns 0) router entry
      let (router, logs) :=
        handleEntries regex forward body (fun later => turns (later + 1)) router entries
      (router, log :: logs)

/-- The status text of a batch. -/
def deliveredText (delivered total : Nat) : Text :=
  decimal delivered ++ '/' :: decimal total ++ " delivered".toList

/-- Handle a batch payload: the response, the router afterwards and what became of each entry. -/
def handleBatchWebhook (json : JsonCrate) (regex : RegexCrate) (forward : List Text)
    (turns : Nat → EntryTurn) (router : ProfileRouter) (payload : Bytes) :
    Response × ProfileRouter × List EntryLog :=
  match json.fromSlice payload with
  | .error message => (⟨400, "Invalid batch JSON: ".toList ++ message⟩, router, [])
  | .ok batch =>
      match (batch.get? "signatures".toList).bind Json.asArray with
      | none => (⟨400, "Missing 'signatures' array".toList⟩, router, [])
      | some sigs =>
          match json.toVec (batch.remove "signatures".toList) with
          | .error _ => (⟨500, "Batch body serialization failed".toList⟩, router, [])
          | .ok body =>
              let (router, logs) := handleEntries regex forward body turns router sigs
              let delivered := logs.countP (·.delivered)
              let status := if delivered = sigs.length then 200 else 207
              (⟨status, deliveredText delivered sigs.length⟩, router, logs)

end Push

open Push

/-! ## What a request carries -/

/-- The request carries the header exactly once, with this value. -/
def CarriesOnce (request : Request) (name value : Text) : Prop :=
  (request.headers.filter fun header => sameHeader header.1 name).map Prod.snd = [value]

/-- The email of an entry, when it is a string. -/
def entryEmail (entry : Json) : Option Text :=
  (entry.index "email".toList).asStr

/-- The tables that the entries' lookups find, one after the other: between two of them come what
the earlier lookup remembers and what other tasks change. -/
def tablesFound (regex : RegexCrate) :
    (Nat → ProfileRouter → ProfileRouter) → ProfileRouter → List (Option Text) → List ProfileRouter
  | _, _, [] => []
  | changes, router, email :: emails =>
      let found := changes 0 router
      let left := email.elim found fun email => (lookup regex found email).2
      found :: tablesFound regex (fun later => changes (later + 1)) left emails

/-- An entry has a string email, signature and timestamp, and its email is routed in the table. -/
def Qualifies (regex : RegexCrate) (table : ProfileRouter) (entry : Json) : Prop :=
  (entry.index "signature".toList).asStr.isSome ∧
    (entry.index "timestamp".toList).asStr.isSome ∧
    ∃ email, entryEmail entry = some email ∧ (lookup regex table email).1.isSome

/-- The request carries the email, the signature and the timestamp of the entry, each exactly
once. -/
def Authenticates (entry : Json) (request : Request) : Prop :=
  ∃ email sig ts, entryEmail entry = some email ∧
    (entry.index "signature".toList).asStr = some sig ∧
    (entry.index "timestamp".toList).asStr = some ts ∧
    CarriesOnce request "X-AIMail-Email".toList email ∧
    CarriesOnce request "X-Webhook-Signature".toList sig ∧
    CarriesOnce request "X-AIMail-Timestamp".toList ts

/-- The payload is a batch of these entries, and what is left of it without them can be sent. -/
def IsBatch (json : JsonCrate) (payload : Bytes) (sigs : List Json) : Prop :=
  ∃ batch, json.fromSlice payload = .ok batch ∧
    (batch.get? "signatures".toList).bind Json.asArray = some sigs ∧
    ∃ body, json.toVec (batch.remove "signatures".toList) = .ok body

/-- The entry stands at this place of the batch, and its lookup finds this table. -/
def EntryAt (regex : RegexCrate) (turns : Nat → EntryTurn) (router : ProfileRouter)
    (sigs : List Json) (place : Nat) (table : ProfileRouter) (entry : Json) : Prop :=
  sigs[place]? = some entry ∧
    (tablesFound regex (fun place => (turns place).change) router
      (sigs.map entryEmail))[place]? = some table

/-- Every qualifying entry of a batch is sent with its own authentication. -/
def BatchAuthenticates (names : HeaderNames) (json : JsonCrate) (regex : RegexCrate)
    (config : List Text) (turns : Nat → EntryTurn) (router : ProfileRouter) (payload : Bytes) :
    Prop :=
  ∀ sigs place table entry, IsBatch json payload sigs →
    EntryAt regex turns router sigs place table entry → Qualifies regex table entry →
    ∃ request, ((handleBatchWebhook json regex (forwardHeaders names config) turns router
        payload).2.2.map EntryLog.request)[place]? = some (some request) ∧
      Authenticates entry request

/-! ## Only the content type is sent -/

/-- A lower-case name is matched as the content type or not at all. -/
theorem batchHeaderValue_lower {name email sig ts output value : Text}
    (lower : ∀ c ∈ name, c.isUpper = false)
    (known : batchHeaderValue name email sig ts = some (output, value)) :
    output = "content-type".toList := by
  have not_upper : ∀ rest, name ≠ 'X' :: rest := by
    rintro rest rfl
    simpa using lower 'X' List.mem_cons_self
  have other : ∀ rest, name = rest → rest.head? ≠ some 'X' := by
    rintro _ rfl starts
    cases name with
    | nil => simp at starts
    | cons c cs =>
        obtain rfl : c = 'X' := by simpa using starts
        exact not_upper cs rfl
  rw [batchHeaderValue] at known
  split_ifs at known with email_name sig_name ts_name content_name
  · rcases email_name with same | same <;> exact absurd (by decide) (other _ same)
  · exact absurd (by decide) (other _ sig_name)
  · rcases ts_name with same | same <;> exact absurd (by decide) (other _ same)
  · exact (Prod.mk.inj (Option.some.inj known)).1.symm

theorem emitHeader_lower {email sig ts name : Text} (lower : ∀ c ∈ name, c.isUpper = false)
    {state : List Text × List (Text × Text)}
    (known : ∀ header ∈ state.2, header.1 = "content-type".toList) :
    ∀ header ∈ (emitHeader email sig ts state name).2, header.1 = "content-type".toList := by
  rw [emitHeader]
  split
  · next output value mapped =>
      split
      · exact known
      · intro header member
        rcases List.mem_append.mp member with old | new
        · exact known header old
        · obtain rfl := List.mem_singleton.mp new
          exact batchHeaderValue_lower lower mapped
  · exact known

/-- From normalised names, a batch request is given the content type at most. -/
theorem batchHeaders_lower {forward : List Text}
    (lower : ∀ name ∈ forward, ∀ c ∈ name, c.isUpper = false) (email sig ts : Text) :
    ∀ header ∈ batchHeaders forward email sig ts, header.1 = "content-type".toList := by
  have loop : ∀ state : List Text × List (Text × Text),
      (∀ header ∈ state.2, header.1 = "content-type".toList) →
      ∀ header ∈ (forward.foldl (emitHeader email sig ts) state).2,
        header.1 = "content-type".toList := by
    induction forward with
    | nil => exact fun _ known => known
    | cons name forward induction =>
        intro state known
        rw [List.foldl_cons]
        exact induction (fun other member => lower other (List.mem_cons_of_mem name member)) _
          (emitHeader_lower (lower name List.mem_cons_self) known)
  exact loop ([], []) (by simp)

/-! ## What becomes of the entries -/

section Entries

variable {json : JsonCrate} {regex : RegexCrate} {forward : List Text} {body payload : Bytes}
  {turns : Nat → EntryTurn} {router : ProfileRouter} {entries : List Json} {log : EntryLog}
  {request : Request}

/-- The request for an entry has the shared body, and headers made from the forward names. -/
theorem handleEntry_request {turn : EntryTurn} {entry : Json}
    (sent : (handleEntry regex forward body turn router entry).2.request = some request) :
    request.body = body ∧ ∃ email sig ts, request.headers = batchHeaders forward email sig ts := by
  rw [handleEntry] at sent
  split at sent
  · simp at sent
  · split at sent
    · simp at sent
    · obtain rfl := Option.some.inj sent
      exact ⟨rfl, _, _, _, rfl⟩

theorem mem_handleEntries
    (member : log ∈ (handleEntries regex forward body turns router entries).2) :
    ∃ turn found entry, log = (handleEntry regex forward body turn found entry).2 := by
  induction entries generalizing turns router with
  | nil => simp [handleEntries] at member
  | cons entry entries induction =>
      rw [handleEntries] at member
      rcases List.mem_cons.mp member with own | later
      · exact ⟨turns 0, router, entry, own⟩
      · exact induction later

/-- What is sent has been read, and written again without the array. -/
theorem handleBatchWebhook_request
    (member : log ∈ (handleBatchWebhook json regex forward turns router payload).2.2)
    (sent : log.request = some request) :
    (∃ batch, json.fromSlice payload = .ok batch ∧
      json.toVec (batch.remove "signatures".toList) = .ok request.body) ∧
      ∃ email sig ts, request.headers = batchHeaders forward email sig ts := by
  rw [handleBatchWebhook] at member
  split at member
  · simp at member
  · next batch read =>
      split at member
      · simp at member
      · split at member
        · simp at member
        · next body written =>
            obtain ⟨turn, found, entry, rfl⟩ := mem_handleEntries member
            obtain ⟨same_body, headers⟩ := handleEntry_request sent
            rw [same_body]
            exact ⟨⟨batch, read, written⟩, headers⟩

end Entries

/-- No request of a batch carries the authentication of an entry. -/
theorem not_authenticates {names : HeaderNames} {json : JsonCrate} {regex : RegexCrate}
    {config : List Text} {turns : Nat → EntryTurn} {router : ProfileRouter} {payload : Bytes}
    {log : EntryLog} {request : Request}
    (member : log ∈
      (handleBatchWebhook json regex (forwardHeaders names config) turns router payload).2.2)
    (sent : log.request = some request) (entry : Json) : ¬ Authenticates entry request := by
  rintro ⟨email, sig, ts, _, _, _, carries, _⟩
  obtain ⟨_, _, _, _, headers⟩ := handleBatchWebhook_request member sent
  have lower : ∀ name ∈ forwardHeaders names config, ∀ c ∈ name, c.isUpper = false := by
    intro name known
    obtain ⟨raw, _, read⟩ := List.mem_filterMap.mp known
    exact names.lower raw name read
  have missing : (request.headers.filter fun header =>
      sameHeader header.1 "X-AIMail-Email".toList) = [] := by
    rw [List.filter_eq_nil_iff]
    intro header inside
    rw [headers] at inside
    rw [batchHeaders_lower lower _ _ _ header inside]
    decide
  rw [CarriesOnce, missing] at carries
  simp at carries

/-- A batch is authenticated only when no entry of it qualifies for being sent. -/
theorem batchAuthenticates_iff (names : HeaderNames) (json : JsonCrate) (regex : RegexCrate)
    (config : List Text) (turns : Nat → EntryTurn) (router : ProfileRouter) (payload : Bytes) :
    BatchAuthenticates names json regex config turns router payload ↔
      ∀ sigs place table entry, IsBatch json payload sigs →
        EntryAt regex turns router sigs place table entry → ¬ Qualifies regex table entry := by
  constructor
  · intro authenticated sigs place table entry batch found qualifies
    obtain ⟨request, requested, authenticates⟩ :=
      authenticated sigs place table entry batch found qualifies
    obtain ⟨log, member, sent⟩ := List.mem_map.mp (List.mem_of_getElem? requested)
    exact not_authenticates member sent entry authenticates
  · exact fun none_qualifies sigs place table entry batch found qualifies =>
      absurd qualifies (none_qualifies sigs place table entry batch found)

/-- A batch for one recipient. -/
def sampleBatch : Json :=
  .object [("signatures".toList, .array [.object [
    ("email".toList, .string "bot@x.org".toList), ("signature".toList, .string "sha256=ab".toList),
    ("timestamp".toList, .string "17".toList)]])]

/-- The payload it is sent in. -/
def samplePayload : Bytes :=
  ("\x7b\"signatures\": [\x7b\"email\": \"bot@x.org\", \"signature\": \"sha256=ab\", " ++
    "\"timestamp\": \"17\"\x7d]\x7d").toList.map fun c => c.toNat.toUInt8

/-- A reader that accepts that payload only. -/
def readSample (payload : Bytes) : Except Text Json :=
  if payload = samplePayload then .ok sampleBatch else .error "expected value".toList

theorem readSample_payload : readSample samplePayload = .ok sampleBatch := by
  rw [readSample, if_pos rfl]

/-- A crate that reads that payload, and writes what is left of it without the array. -/
def sampleJson : JsonCrate where
  fromSlice := readSample
  toVec _ := .ok [0x7B, 0x7D]

/-- A router that serves the recipient. -/
def sampleRouter : ProfileRouter :=
  { ProfileRouter.new none with
    routes := (∅ : HashMap Text ProfileRoute).insert "bot@x.org".toList
      (ProfileRoute.new "bot@x.org".toList "10.0.0.7".toList 8645) }

/-- With the default configuration, the signature of a recipient is not sent. -/
theorem signature_dropped : ¬ BatchAuthenticates HeaderNames.ascii sampleJson RegexCrate.simple
    defaultForwardHeaders (fun _ => ⟨id, .status 200⟩) sampleRouter samplePayload := by
  intro authenticated
  obtain ⟨request, requested, authenticates⟩ := authenticated _ 0 _ _
    ⟨sampleBatch, readSample_payload, rfl, [0x7B, 0x7D], rfl⟩ ⟨rfl, rfl⟩
    ⟨rfl, rfl, "bot@x.org".toList, rfl, rfl⟩
  obtain ⟨log, member, sent⟩ := List.mem_map.mp (List.mem_of_getElem? requested)
  exact not_authenticates member sent _ authenticates

end AimailBridge
