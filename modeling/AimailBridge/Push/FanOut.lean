import AimailBridge.Push.Batch

/-!
# The fan-out of a batch

Every entry with a string email that is routed is sent to its own target, in the order of the array.
What became of the entries before it decides neither whether it is sent nor where: their lookups
leave routes behind that a later lookup would have found as well.
-/

namespace AimailBridge

open Foundation Text ProfileRouter Push

/-- The target of an entry in a table: that of the route of its email, when it has one. -/
def entryTarget (regex : RegexCrate) (router : ProfileRouter) (entry : Json) : Option Text :=
  (entryEmail entry).bind fun email => (lookup regex router email).1.map ProfileRoute.targetUrl

/-- The target and the body of what was sent for an entry. -/
def Push.EntryLog.sent (log : EntryLog) : Option (Text × Bytes) :=
  log.request.map fun request => (request.target, request.body)

/-- The answers to the requests, at the places of their entries. -/
def answersTo (turns : Nat → EntryTurn) (sent : List (Option (Text × Bytes))) :
    List (Option Answer) :=
  sent.mapIdx fun place request => request.map fun _ => (turns place).answer

/-- A batch is fanned out: each entry that has a target is sent the shared body there, and the
answer reports how many of the requests were answered 2xx. -/
structure FansOut (regex : RegexCrate) (turns : Nat → EntryTurn) (router : ProfileRouter)
    (sigs : List Json) (body : Bytes) (response : Response) (logs : List EntryLog) : Prop where
  /-- Each entry is sent once if its table has a target for it, and else not at all. -/
  targets : logs.map EntryLog.sent = List.zipWith
    (fun table entry => (entryTarget regex table entry).map (·, body))
    (tablesFound regex (fun place => (turns place).change) router (sigs.map entryEmail)) sigs
  /-- When no other task changes the table, the first table decides all targets. -/
  undisturbed : (∀ place, (turns place).change = id) →
    logs.map EntryLog.sent = sigs.map fun entry =>
      (entryTarget regex router entry).map (·, body)
  /-- The delivered entries are those whose request is answered 2xx. -/
  text : response.text = deliveredText
    ((answersTo turns (logs.map EntryLog.sent)).countP (·.any Answer.isSuccess)) sigs.length
  /-- The status is 200 when all are delivered, and 207 otherwise. -/
  status : response.status =
    if (answersTo turns (logs.map EntryLog.sent)).countP (·.any Answer.isSuccess) = sigs.length
    then 200 else 207

/-- The crate writes every value it can hold. -/
def WritesValues (json : JsonCrate) : Prop :=
  ∀ value, ∃ bytes, json.toVec value = .ok bytes

/-! ## One entry -/

section Entries

variable {regex : RegexCrate} {forward : List Text} {body : Bytes} {turn : EntryTurn}
  {turns : Nat → EntryTurn} {router : ProfileRouter} {entry : Json} {entries : List Json}

/-- What is sent for an entry is decided by the table it finds. -/
theorem handleEntry_sent : (handleEntry regex forward body turn router entry).2.sent =
    (entryTarget regex (turn.change router) entry).map (·, body) := by
  rw [handleEntry, entryTarget, entryEmail]
  cases (entry.index "email".toList).asStr with
  | none => rfl
  | some email =>
      simp only [Option.bind_some]
      cases lookup regex (turn.change router) email with
      | mk found left => cases found <;> rfl

/-- An entry leaves the table as its lookup does. -/
theorem handleEntry_router : (handleEntry regex forward body turn router entry).1 =
    (entryEmail entry).elim (turn.change router)
      fun email => (lookup regex (turn.change router) email).2 := by
  rw [handleEntry, entryEmail]
  cases (entry.index "email".toList).asStr with
  | none => rfl
  | some email =>
      simp only [Option.elim_some]
      cases lookup regex (turn.change router) email with
      | mk found left => cases found <;> rfl

/-- An entry counts as delivered when it is sent and the answer is 2xx. -/
theorem handleEntry_delivered : (handleEntry regex forward body turn router entry).2.delivered =
    ((handleEntry regex forward body turn router entry).2.sent.map fun _ =>
      turn.answer).any Answer.isSuccess := by
  rw [handleEntry]
  cases (entry.index "email".toList).asStr with
  | none => rfl
  | some email =>
      dsimp only
      cases lookup regex (turn.change router) email with
      | mk found left => cases found <;> rfl

/-! ## All entries -/

theorem handleEntries_sent : (handleEntries regex forward body turns router entries).2.map
    EntryLog.sent = List.zipWith (fun table entry => (entryTarget regex table entry).map (·, body))
      (tablesFound regex (fun place => (turns place).change) router (entries.map entryEmail))
      entries := by
  induction entries generalizing turns router with
  | nil => rfl
  | cons entry entries induction =>
      simp only [handleEntries, List.map_cons, tablesFound, List.zipWith_cons_cons]
      rw [handleEntry_sent, induction, handleEntry_router]

/-- The answers of a batch, entry by entry. -/
theorem handleEntries_delivered :
    (handleEntries regex forward body turns router entries).2.countP (·.delivered) =
      (answersTo turns ((handleEntries regex forward body turns router entries).2.map
        EntryLog.sent)).countP (·.any Answer.isSuccess) := by
  induction entries generalizing turns router with
  | nil => rfl
  | cons entry entries induction =>
      have later := @induction (fun later => turns (later + 1))
        (handleEntry regex forward body (turns 0) router entry).1
      simp only [handleEntries, answersTo, List.map_cons, List.mapIdx_cons, List.countP_cons]
      rw [later, handleEntry_delivered]
      rfl

/-! ## Lookups leave the answers -/

/-- Two tables route every email alike. -/
def RoutesAlike (regex : RegexCrate) (left right : ProfileRouter) : Prop :=
  ∀ email, (lookup regex left email).1 = (lookup regex right email).1

theorem entryTarget_congr {left right : ProfileRouter} (alike : RoutesAlike regex left right) :
    entryTarget regex left entry = entryTarget regex right entry := by
  rw [entryTarget, entryTarget]
  congr 1
  funext email
  rw [alike email]

/-- When only lookups touch the table, each of the tables found routes as the first one does. -/
theorem tablesFound_alike {changes : Nat → ProfileRouter → ProfileRouter}
    (undisturbed : ∀ place, changes place = id) (emails : List (Option Text)) :
    ∀ table ∈ tablesFound regex changes router emails, RoutesAlike regex table router := by
  induction emails generalizing changes router with
  | nil => simp [tablesFound]
  | cons email emails induction =>
      intro table member
      rw [tablesFound, undisturbed 0] at member
      rcases List.mem_cons.mp member with rfl | later
      · exact fun _ => rfl
      · have alike := induction (fun place => undisturbed (place + 1)) table later
        intro other
        rw [alike other]
        cases email with
        | none => rfl
        | some email => exact lookup_lookup router email other

theorem length_tablesFound (changes : Nat → ProfileRouter → ProfileRouter)
    (emails : List (Option Text)) :
    (tablesFound regex changes router emails).length = emails.length := by
  induction emails generalizing changes router with
  | nil => rfl
  | cons email emails induction => rw [tablesFound, List.length_cons, induction, List.length_cons]

/-- Tables that route alike give the entries the targets of any one of them. -/
theorem zipWith_alike {tables : List ProfileRouter} (same_length : tables.length = entries.length)
    (alike : ∀ table ∈ tables, RoutesAlike regex table router) :
    List.zipWith (fun table entry => (entryTarget regex table entry).map (·, body)) tables entries =
      entries.map fun entry => (entryTarget regex router entry).map (·, body) := by
  induction tables generalizing entries with
  | nil =>
      obtain rfl := List.length_eq_zero_iff.mp same_length.symm
      rfl
  | cons table tables induction =>
      cases entries with
      | nil => simp at same_length
      | cons entry entries =>
          rw [List.zipWith_cons_cons, List.map_cons,
            entryTarget_congr (alike table List.mem_cons_self),
            induction (Nat.succ.inj same_length) fun other member =>
              alike other (List.mem_cons_of_mem table member)]

end Entries

/-- A batch is fanned out to all of its entries that are routed, whatever becomes of any of them,
and the answer counts the deliveries. -/
theorem handleBatchWebhook_fansOut (json : JsonCrate) (writes : WritesValues json)
    (regex : RegexCrate) (forward : List Text) (turns : Nat → EntryTurn) (router : ProfileRouter)
    (payload : Bytes) (batch : Json) (read : json.fromSlice payload = .ok batch)
    (sigs : List Json) (listed : (batch.get? "signatures".toList).bind Json.asArray = some sigs) :
    ∃ body, json.toVec (batch.remove "signatures".toList) = .ok body ∧
      FansOut regex turns router sigs body
        (handleBatchWebhook json regex forward turns router payload).1
        (handleBatchWebhook json regex forward turns router payload).2.2 := by
  obtain ⟨body, written⟩ := writes (batch.remove "signatures".toList)
  refine ⟨body, written, ?_⟩
  have sent := @handleEntries_sent regex forward body turns router sigs
  have counted := @handleEntries_delivered regex forward body turns router sigs
  simp only [handleBatchWebhook, read, listed, written]
  refine ⟨sent, fun undisturbed => ?_, congrArg (deliveredText · _) counted, ?_⟩
  · rw [sent]
    apply zipWith_alike
    · rw [length_tablesFound, List.length_map]
    · exact tablesFound_alike undisturbed _
  · rw [counted]

/-- Four entries: one is no object, one is for an email without a route. -/
def mixedEntries : List Json :=
  [.number (.unsigned 7),
    .object [("email".toList, .string "nobody@y.org".toList)],
    .object [("email".toList, .string "bot@x.org".toList),
      ("signature".toList, .string "sha256=ab".toList), ("timestamp".toList, .string "17".toList)],
    .object [("email".toList, .string "ann@x.org".toList),
      ("signature".toList, .string "sha256=cd".toList), ("timestamp".toList, .string "18".toList)]]

/-- The payload they come in. -/
def mixedPayload : Bytes :=
  asciiBytes ("\x7b\"signatures\":[7,\x7b\"email\":\"nobody@y.org\"\x7d,\x7b\"email\":" ++
    "\"bot@x.org\",\"signature\":\"sha256=ab\",\"timestamp\":\"17\"\x7d,\x7b\"email\":" ++
    "\"ann@x.org\",\"signature\":\"sha256=cd\",\"timestamp\":\"18\"\x7d]\x7d").toList

/-- The batch that they make. -/
def mixedBatch : Json :=
  .object [("signatures".toList, .array mixedEntries)]

/-- A reader that accepts that payload only. -/
def readMixed (payload : Bytes) : Except Text Json :=
  if payload = mixedPayload then .ok mixedBatch else .error "expected value".toList

/-- A crate that reads that payload, and writes what is left of it without the array. -/
def mixedJson : JsonCrate where
  fromSlice := readMixed
  toVec _ := .ok [0x7B, 0x7D]

theorem mixedJson_payload : mixedJson.fromSlice mixedPayload = .ok mixedBatch := by
  have reader : mixedJson.fromSlice = readMixed := rfl
  rw [reader, readMixed, if_pos rfl]

/-- A router that serves two recipients. -/
def pairRouter : ProfileRouter :=
  { sampleRouter with
    routes := sampleRouter.routes.insert "ann@x.org".toList
      (ProfileRoute.new "ann@x.org".toList "10.0.0.9".toList 9000) }

/-- The first of the two recipients does not answer. -/
def mixedTurns : Nat → EntryTurn := fun place =>
  ⟨id, if place = 2 then .failed else .status 200⟩

/-- Of the entries that are no object, have no route, fail and are taken, one is delivered. -/
theorem handleBatchWebhook_fansOut_sample :
    (∃ body, mixedJson.toVec (mixedBatch.remove "signatures".toList) = .ok body ∧
      FansOut RegexCrate.simple mixedTurns pairRouter mixedEntries body
        (handleBatchWebhook mixedJson RegexCrate.simple [] mixedTurns pairRouter mixedPayload).1
        (handleBatchWebhook mixedJson RegexCrate.simple [] mixedTurns pairRouter
          mixedPayload).2.2) ∧
    (handleBatchWebhook mixedJson RegexCrate.simple [] mixedTurns pairRouter mixedPayload).1 =
      ⟨207, "1/4 delivered".toList⟩ :=
  ⟨handleBatchWebhook_fansOut mixedJson (fun _ => ⟨_, rfl⟩) RegexCrate.simple [] mixedTurns
      pairRouter mixedPayload mixedBatch mixedJson_payload mixedEntries rfl, by decide +kernel⟩

end AimailBridge
