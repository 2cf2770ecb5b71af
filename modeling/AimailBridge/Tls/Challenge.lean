import AimailBridge.Foundation.Files
import AimailBridge.Foundation.HashMap
import AimailBridge.Foundation.Path
import AimailBridge.Tls.Acme

/-!
# Challenges

Each pending authorization of an order has a challenge: the proof for its token has to be found
under a well-known path before the challenge is declared ready.  The proof is put into a registry,
into a file for another server, or behind a listener of its own that lives for half a minute.
-/

namespace AimailBridge

open Foundation Text Path

/-- The thread that answers a challenge on port 80. -/
structure Listener where
  /-- Token. -/
  token : Text
  /-- Proof. -/
  proof : Text
  /-- When it stops. -/
  deadline : SystemTime

/-- The places where proofs are served. -/
structure Challenges where
  /-- The in-memory registry, when there is one. -/
  registry : Option (HashMap Text Text)
  /-- The files that another server serves. -/
  files : Text → FileContent
  /-- The listener, running or stopped. -/
  listener : Option Listener

/-- How long a listener runs: 30 seconds. -/
def listenerLife : Nat :=
  30 * 1000000000

/-- How long a listener sleeps between two looks at its port: 100 milliseconds. -/
def listenerPause : Nat :=
  100 * 1000000

/-- The file of a challenge. -/
def challengeFile (dir token : Text) : Text :=
  join (join (join dir ".well-known".toList) "acme-challenge".toList) token

/-- The path of a challenge. -/
def challengePathOf (token : Text) : Text :=
  "/.well-known/acme-challenge/".toList ++ token

/-- Start a temporary server for a challenge, unless the port is taken: by a listener that still
runs, or by something else as `bound` tells. -/
def serveChallengeHttp (now : SystemTime) (bound : Bool) (token proof : Text)
    (challenges : Challenges) : Option Challenges :=
  if bound && challenges.listener.all (·.deadline ≤ now) then
    some { challenges with listener := some ⟨token, proof, now + listenerLife⟩ }
  else none

/-- What a listener sends to a connection with this first line. -/
def Listener.respond (listener : Listener) (line : Text) : Option Text :=
  if challengePathOf listener.token <:+: line then some listener.proof else none

/-- What is sent to a connection at this time.  A listener stops at its deadline, and may sleep
through the last moments before it; otherwise it answers, unless accepting fails or another
connection keeps it busy. -/
def Listener.answer (listener : Listener) (now : SystemTime) (line : Text) : Option Text :=
  if now + listenerPause < listener.deadline then listener.respond line else none

/-- Serve a challenge: where its proof is served then, and whether that has succeeded. -/
def serveChallenge (challengePath : Option Text) (now : SystemTime) (point : WritePoint)
    (token proof : Text) (challenges : Challenges) : Challenges × Bool :=
  match challenges.registry, challengePath with
  | some registry, _ =>
      ({ challenges with registry := some (registry.insert token proof) }, true)
  | none, some dir =>
      let file := challengeFile dir token
      ({ challenges with
          files := Function.update challenges.files file
            (writeFile (utf8 proof) (challenges.files file) point) },
        point.isFinished)
  | none, none =>
      match serveChallengeHttp now (point.isFinished) token proof challenges with
      | some challenges => (challenges, true)
      | none => (challenges, false)

/-- The first line of the request in which a proof is fetched. -/
def validationLine (token : Text) : Text :=
  "GET ".toList ++ challengePathOf token ++ " HTTP/1.1\r\n".toList

/-- The proof that is found when one asks for a token at this time. -/
def proofAt (challengePath : Option Text) (now : SystemTime) (challenges : Challenges)
    (token : Text) : FileContent :=
  match challenges.registry, challengePath with
  | some registry, _ => (registry.lookup token).map utf8
  | none, some dir => challenges.files (challengeFile dir token)
  | none, none =>
      match challenges.listener with
      | none => none
      | some listener => (listener.answer now (validationLine token)).map utf8

/-! ## Authorizations -/

/-- The status of an authorization. -/
inductive AuthorizationStatus
  /-- The domain is still to be validated. -/
  | pending
  /-- It has been validated. -/
  | valid
  /-- Any other. -/
  | other
  deriving DecidableEq

/-- An authorization of an order. -/
structure Authorization where
  /-- Status. -/
  status : AuthorizationStatus
  /-- The token of its HTTP-01 challenge, if it has one. -/
  http01 : Option Text

/-- What happens while an authorization is processed. -/
structure AuthorizationTurn where
  /-- The authorization, if it is fetched. -/
  fetched : Option Authorization
  /-- Time until its challenge is served. -/
  wait : Nat
  /-- How far serving it gets. -/
  point : WritePoint
  /-- Whether the challenge can be declared ready. -/
  readied : Bool

/-- A challenge when it is declared ready. -/
structure ReadyCall where
  /-- Token. -/
  token : Text
  /-- When its proof was served. -/
  served : SystemTime

/-- An order while its authorizations are processed. -/
structure OrderProgress where
  /-- The time. -/
  now : SystemTime
  /-- The proofs that are served. -/
  challenges : Challenges
  /-- The challenges that have been declared ready. -/
  ready : List ReadyCall

/-- Process one authorization; `keyAuthorization` gives the proof of a token. -/
def processAuthorization (keyAuthorization : Text → Text) (challengePath : Option Text)
    (progress : OrderProgress) (turn : AuthorizationTurn) : OrderProgress × Bool :=
  match turn.fetched with
  | none => (progress, false)
  | some authorization =>
      match authorization.status, authorization.http01 with
      | .valid, _ => (progress, true)
      | .other, _ | .pending, none => (progress, false)
      | .pending, some token =>
          let now := progress.now + turn.wait
          let (challenges, served) := serveChallenge challengePath now turn.point token
            (keyAuthorization token) progress.challenges
          if served then
            ({ now, challenges, ready := progress.ready ++ [⟨token, now⟩] },
              turn.readied)
          else ({ progress with now, challenges }, false)

/-- Process the authorizations up to the first that fails. -/
def processAuthorizations (keyAuthorization : Text → Text) (challengePath : Option Text) :
    OrderProgress → List AuthorizationTurn → OrderProgress × Bool
  | progress, [] => (progress, true)
  | progress, turn :: turns =>
      match processAuthorization keyAuthorization challengePath progress turn with
      | (progress, true) => processAuthorizations keyAuthorization challengePath progress turns
      | (progress, false) => (progress, false)

/-- The token of an authorization that is still pending. -/
def AuthorizationTurn.pendingToken (turn : AuthorizationTurn) : Option Text :=
  turn.fetched.bind fun authorization =>
    if authorization.status = .pending then authorization.http01 else none

/-! ## Served proofs -/

section Serving

variable {keyAuthorization : Text → Text} {challengePath : Option Text} {now later : SystemTime}
  {point : WritePoint} {token proof : Text} {challenges : Challenges}

theorem isInfix_validationLine (token : Text) : challengePathOf token <:+: validationLine token :=
  ⟨"GET ".toList, " HTTP/1.1\r\n".toList, rfl⟩

/-- Proofs stay where they are served, and no listener is needed for them. -/
def Persistent (challengePath : Option Text) (challenges : Challenges) : Prop :=
  challenges.registry.isSome ∨ challengePath.isSome

theorem not_persistent_listener {files : Text → FileContent} {listener : Option Listener} :
    ¬ Persistent none ⟨none, files, listener⟩ := by
  simp [Persistent]

theorem proofAt_listening (files : Text → FileContent) (listener : Listener) :
    proofAt none later ⟨none, files, some listener⟩ token =
      (listener.answer later (validationLine token)).map utf8 := rfl

/-- A listener gives its proof until it stops. -/
theorem answer_validationLine {deadline : SystemTime} (running : later + listenerPause < deadline) :
    (Listener.mk token proof deadline).answer later (validationLine token) = some proof := by
  rw [Listener.answer, if_pos running, Listener.respond, if_pos (isInfix_validationLine token)]

/-- Who is answered by a listener asks before it stops. -/
theorem deadline_of_answer {listener : Listener} {line given : Text}
    (answered : listener.answer later line = some given) : later < listener.deadline := by
  rw [Listener.answer] at answered
  obtain ⟨running, _⟩ := Option.ite_none_right_eq_some.mp answered
  exact Nat.lt_of_add_right_lt running

/-- Where proofs persist, it does not matter when one asks. -/
theorem proofAt_of_persistent (persistent : Persistent challengePath challenges)
    (other : SystemTime) :
    proofAt challengePath later challenges token =
      proofAt challengePath other challenges token := by
  obtain ⟨registry, files, listener⟩ := challenges
  cases registry with
  | some registry => rfl
  | none =>
      cases challengePath with
      | some dir => rfl
      | none => exact absurd persistent not_persistent_listener

/-- A proof that is served is found, for good or for as long as the listener runs. -/
theorem proofAt_serveChallenge
    (served : (serveChallenge challengePath now point token proof challenges).2 = true)
    (soon : Persistent challengePath challenges ∨ later + listenerPause < now + listenerLife) :
    proofAt challengePath later (serveChallenge challengePath now point token proof challenges).1
      token = some (utf8 proof) := by
  obtain ⟨registry, files, listener⟩ := challenges
  cases registry with
  | some registry => simp [serveChallenge, proofAt]
  | none =>
      cases challengePath with
      | some dir =>
          cases point with
          | unopened | stopped _ => cases served
          | finished => simp [serveChallenge, proofAt, writeFile]
      | none =>
          have running := soon.resolve_left not_persistent_listener
          by_cases free : (point.isFinished && listener.all (·.deadline ≤ now)) = true
          · have started : serveChallenge none now point token proof ⟨none, files, listener⟩ =
                (⟨none, files, some ⟨token, proof, now + listenerLife⟩⟩, true) := by
              simp only [serveChallenge, serveChallengeHttp, free, if_true]
            rw [started, proofAt_listening, answer_validationLine running, Option.map_some]
          · simp only [serveChallenge, serveChallengeHttp, free, if_false, Bool.false_eq_true]
              at served

/-- Serving one challenge, or failing to, keeps the others, when no two tokens share a file: a
listener is not replaced before it has stopped. -/
theorem proofAt_serveChallenge_of_ne {other : Text} {given : List UInt8} (different : other ≠ token)
    (apart : ∀ dir, challengePath = some dir → challengeFile dir other ≠ challengeFile dir token)
    (after : now ≤ later)
    (found : proofAt challengePath later challenges other = some given) :
    proofAt challengePath later (serveChallenge challengePath now point token proof challenges).1
      other = some given := by
  rw [← found]
  obtain ⟨registry, files, listener⟩ := challenges
  cases registry with
  | some registry => simp [serveChallenge, proofAt, AList.lookup_insert_ne different]
  | none =>
      cases challengePath with
      | some dir => simp [serveChallenge, proofAt, Function.update_of_ne (apart dir rfl)]
      | none =>
          cases listener with
          | none => cases found
          | some listener =>
              rw [proofAt_listening] at found
              obtain ⟨proof, answered, _⟩ := Option.map_eq_some_iff.mp found
              have running := deadline_of_answer answered
              have taken : (point.isFinished &&
                  (some listener).all (·.deadline ≤ now)) = false := by
                simp [Nat.lt_of_le_of_lt after running]
              simp only [serveChallenge, serveChallengeHttp, taken, Bool.false_eq_true, if_false]

/-- Serving a challenge does not change where proofs are served. -/
theorem persistent_serveChallenge : Persistent challengePath
    (serveChallenge challengePath now point token proof challenges).1 ↔
      Persistent challengePath challenges := by
  obtain ⟨registry, files, listener⟩ := challenges
  cases registry with
  | some registry => exact iff_of_true (Or.inl rfl) (Or.inl rfl)
  | none =>
      cases challengePath with
      | some dir => exact iff_of_true (Or.inr rfl) (Or.inr rfl)
      | none =>
          refine iff_of_false ?_ not_persistent_listener
          by_cases free : (point.isFinished && listener.all (·.deadline ≤ now)) = true
          · simp only [serveChallenge, serveChallengeHttp, free, if_true]
            exact not_persistent_listener
          · simp only [serveChallenge, serveChallengeHttp, free, if_false, Bool.false_eq_true]
            exact not_persistent_listener

end Serving

/-! ## Challenges that are declared ready -/

/-- A letter, a digit, a hyphen or an underscore. -/
def isTokenChar (c : Char) : Bool :=
  c.isAlphanum || c == '-' || c == '_'

/-- A token as the protocol has them. -/
def PlainToken (token : Text) : Prop :=
  ∀ c ∈ token, isTokenChar c = true

section Readied

variable {keyAuthorization : Text → Text} {challengePath : Option Text}
  {progress : OrderProgress} {turn : AuthorizationTurn} {turns : List AuthorizationTurn}

/-- The order with a challenge that has been served, and is declared ready. -/
def OrderProgress.readied (progress : OrderProgress) (now : SystemTime) (token : Text)
    (challenges : Challenges) : OrderProgress :=
  ⟨now, challenges, progress.ready ++ [⟨token, now⟩]⟩

/-- Processing an authorization declares its challenge ready once its proof is served.  It stops the
order when the proof cannot be served, and otherwise leaves all as it is, where the order goes on
only if nothing was pending. -/
theorem processAuthorization_cases (keyAuthorization : Text → Text) (challengePath : Option Text)
    (progress : OrderProgress) (turn : AuthorizationTurn) :
    let outcome := processAuthorization keyAuthorization challengePath progress turn
    (∃ token, turn.pendingToken = some token ∧
      let served := serveChallenge challengePath (progress.now + turn.wait) turn.point token
        (keyAuthorization token) progress.challenges
      (served.2 = true ∧
        outcome = (progress.readied (progress.now + turn.wait) token served.1, turn.readied)) ∨
      (served.2 = false ∧ outcome =
        ({ progress with now := progress.now + turn.wait, challenges := served.1 }, false))) ∨
    (outcome.1 = progress ∧ (outcome.2 = true → turn.pendingToken = none)) := by
  dsimp only
  rw [processAuthorization]
  cases fetched : turn.fetched with
  | none => exact Or.inr ⟨rfl, fun same => absurd same Bool.false_ne_true⟩
  | some authorization =>
      obtain ⟨status, http01⟩ := authorization
      cases status with
      | valid =>
          refine Or.inr ⟨rfl, fun _ => ?_⟩
          rw [AuthorizationTurn.pendingToken, fetched]
          rfl
      | other => exact Or.inr ⟨rfl, fun same => absurd same Bool.false_ne_true⟩
      | pending =>
          cases http01 with
          | none => exact Or.inr ⟨rfl, fun same => absurd same Bool.false_ne_true⟩
          | some token =>
              refine Or.inl ⟨token, by rw [AuthorizationTurn.pendingToken, fetched]; rfl, ?_⟩
              dsimp only
              cases served : (serveChallenge challengePath (progress.now + turn.wait) turn.point
                  token (keyAuthorization token) progress.challenges).2 with
              | true =>
                  left
                  rw [if_pos rfl]
                  exact ⟨rfl, rfl⟩
              | false =>
                  right
                  rw [if_neg Bool.false_ne_true]
                  exact ⟨rfl, rfl⟩

theorem relative_of_plainToken {token : Text} (plain : PlainToken token) :
    isAbsolute token = false := by
  rw [isAbsolute, decide_eq_false_iff_not]
  intro slash
  exact absurd (plain '/' (List.mem_of_head? slash)) (by decide)

/-- Plain tokens have files of their own. -/
theorem challengeFile_inj {dir token other : Text} (plain : PlainToken token)
    (plain_other : PlainToken other)
    (same : challengeFile dir other = challengeFile dir token) : other = token :=
  join_inj (relative_of_plainToken plain) (relative_of_plainToken plain_other) same

/-- The proof of each challenge that has been declared ready is found from now on: for good where
proofs persist, and otherwise for as long as the listener runs that was started for it. -/
def CallsServed (keyAuthorization : Text → Text) (challengePath : Option Text)
    (progress : OrderProgress) : Prop :=
  ∀ call ∈ progress.ready, ∀ later, progress.now ≤ later →
    (Persistent challengePath progress.challenges ∨
      later + listenerPause < call.served + listenerLife) →
    proofAt challengePath later progress.challenges call.token =
      some (utf8 (keyAuthorization call.token))

/-- The tokens of an order, those declared ready and those to come, are plain and all different. -/
structure TokensApart (progress : OrderProgress) (tokens : List Text) : Prop where
  /-- They are plain. -/
  plain : ∀ token ∈ progress.ready.map ReadyCall.token ++ tokens, PlainToken token
  /-- They are all different. -/
  distinct : (progress.ready.map ReadyCall.token ++ tokens).Nodup

variable {tokens : List Text} {token : Text}

/-- A token to come is unlike those declared ready, and has a file of its own. -/
theorem TokensApart.apart (tokens_apart : TokensApart progress (token :: tokens)) {call : ReadyCall}
    (member : call ∈ progress.ready) : call.token ≠ token ∧ ∀ dir,
      challengeFile dir call.token ≠ challengeFile dir token := by
  have old := List.mem_map_of_mem (f := ReadyCall.token) member
  have different : call.token ≠ token :=
    (List.nodup_append.mp tokens_apart.distinct).2.2 _ old _ List.mem_cons_self
  refine ⟨different, fun dir shared => different ?_⟩
  exact challengeFile_inj
    (tokens_apart.plain token (List.mem_append_right _ List.mem_cons_self))
    (tokens_apart.plain call.token (List.mem_append_left _ old)) shared

/-- Serving a challenge, or failing to, keeps the proofs of those declared ready before. -/
theorem CallsServed.serve (served : CallsServed keyAuthorization challengePath progress)
    (tokens_apart : TokensApart progress (token :: tokens)) (wait : Nat) (point : WritePoint)
    (proof : Text) : CallsServed keyAuthorization challengePath
      { progress with
        now := progress.now + wait
        challenges := (serveChallenge challengePath (progress.now + wait) point token proof
          progress.challenges).1 } := by
  intro call member later after soon
  obtain ⟨different, files⟩ := tokens_apart.apart member
  rw [persistent_serveChallenge] at soon
  refine proofAt_serveChallenge_of_ne different (fun dir _ => files dir) after ?_
  exact served call member later (Nat.le_of_add_right_le after) soon

/-- One authorization keeps the proofs of the challenges that have been declared ready. -/
theorem CallsServed.process (served : CallsServed keyAuthorization challengePath progress)
    (tokens_apart : TokensApart progress (turn.pendingToken.toList ++ tokens)) :
    CallsServed keyAuthorization challengePath
      (processAuthorization keyAuthorization challengePath progress turn).1 := by
  rcases processAuthorization_cases keyAuthorization challengePath progress turn with
    ⟨token, pending, ⟨success, same⟩ | ⟨_, same⟩⟩ | ⟨same, _⟩
  · rw [pending] at tokens_apart
    rw [same]
    intro call member later after soon
    rcases List.mem_append.mp member with old | new
    · exact served.serve tokens_apart turn.wait turn.point _ call old later after soon
    · obtain rfl := List.mem_singleton.mp new
      exact proofAt_serveChallenge success (soon.imp_left persistent_serveChallenge.mp)
  · rw [pending] at tokens_apart
    rw [same]
    exact served.serve tokens_apart turn.wait turn.point _
  · rw [same]
    exact served

/-- When the order goes on, the pending token is one of those declared ready. -/
theorem TokensApart.process
    (tokens_apart : TokensApart progress (turn.pendingToken.toList ++ tokens))
    (success : (processAuthorization keyAuthorization challengePath progress turn).2 = true) :
    TokensApart (processAuthorization keyAuthorization challengePath progress turn).1 tokens := by
  obtain ⟨plain, distinct⟩ := tokens_apart
  rcases processAuthorization_cases keyAuthorization challengePath progress turn with
    ⟨token, pending, ⟨_, same⟩ | ⟨_, same⟩⟩ | ⟨same, unpending⟩
  · have moved : (progress.readied (progress.now + turn.wait) token
        (serveChallenge challengePath (progress.now + turn.wait) turn.point token
          (keyAuthorization token) progress.challenges).1).ready.map ReadyCall.token ++ tokens =
        progress.ready.map ReadyCall.token ++ (turn.pendingToken.toList ++ tokens) := by
      rw [pending, OrderProgress.readied, List.map_append, List.append_assoc]
      rfl
    rw [same]
    exact ⟨by rw [moved]; exact plain, by rw [moved]; exact distinct⟩
  · rw [same] at success
    exact absurd success Bool.false_ne_true
  · rw [unpending success] at plain distinct
    rw [same]
    exact ⟨plain, distinct⟩

theorem processAuthorizations_cons (keyAuthorization : Text → Text) (challengePath : Option Text)
    (progress : OrderProgress) (turn : AuthorizationTurn) (turns : List AuthorizationTurn) :
    processAuthorizations keyAuthorization challengePath progress (turn :: turns) =
      if (processAuthorization keyAuthorization challengePath progress turn).2 then
        processAuthorizations keyAuthorization challengePath
          (processAuthorization keyAuthorization challengePath progress turn).1 turns
      else ((processAuthorization keyAuthorization challengePath progress turn).1, false) := by
  rw [processAuthorizations]
  cases processAuthorization keyAuthorization challengePath progress turn with
  | mk progress success => cases success <;> rfl

/-- An order keeps the proofs of the challenges that are declared ready. -/
theorem CallsServed.processAll (served : CallsServed keyAuthorization challengePath progress)
    (tokens_apart : TokensApart progress (turns.filterMap AuthorizationTurn.pendingToken)) :
    CallsServed keyAuthorization challengePath
      (processAuthorizations keyAuthorization challengePath progress turns).1 := by
  induction turns generalizing progress with
  | nil => exact served
  | cons turn turns induction =>
      have first : (turn :: turns).filterMap AuthorizationTurn.pendingToken =
          turn.pendingToken.toList ++ turns.filterMap AuthorizationTurn.pendingToken := by
        rw [List.filterMap_cons]
        cases turn.pendingToken <;> rfl
      rw [first] at tokens_apart
      rw [processAuthorizations_cons]
      split
      · next success => exact induction (served.process tokens_apart) (tokens_apart.process success)
      · exact served.process tokens_apart

/-- The challenges are declared ready one after the other. -/
theorem ready_processAll
    (success : (processAuthorizations keyAuthorization challengePath progress turns).2 = true) :
    (processAuthorizations keyAuthorization challengePath progress turns).1.ready.map
        ReadyCall.token =
      progress.ready.map ReadyCall.token ++ turns.filterMap AuthorizationTurn.pendingToken := by
  induction turns generalizing progress with
  | nil => exact (List.append_nil _).symm
  | cons turn turns induction =>
      rw [processAuthorizations_cons] at success ⊢
      split at success
      · next first =>
          rw [if_pos first, induction success]
          rcases processAuthorization_cases keyAuthorization challengePath progress turn with
            ⟨token, pending, ⟨_, same⟩ | ⟨_, same⟩⟩ | ⟨same, unpending⟩
          · rw [same, List.filterMap_cons_some pending, OrderProgress.readied, List.map_append,
              List.append_assoc]
            rfl
          · rw [same] at first
            exact absurd first Bool.false_ne_true
          · rw [same, List.filterMap_cons_none (unpending first)]
      · cases success

end Readied

/-- What becomes of the challenges of an order. -/
structure ChallengesMet (keyAuthorization : Text → Text) (challengePath : Option Text)
    (start : OrderProgress) (turns : List AuthorizationTurn) : Prop where
  /-- In every state that the order goes through, the proofs of the challenges declared ready by
  then are found. -/
  calls : ∀ before, before <+: turns → CallsServed keyAuthorization challengePath
    (processAuthorizations keyAuthorization challengePath start before).1
  /-- When the order goes on, the challenges of all pending authorizations have been declared
  ready, in their order. -/
  complete : (processAuthorizations keyAuthorization challengePath start turns).2 = true →
    (processAuthorizations keyAuthorization challengePath start turns).1.ready.map
      ReadyCall.token = turns.filterMap AuthorizationTurn.pendingToken
  /-- All their proofs are there in the end, unless a listener serves them. -/
  kept : Persistent challengePath
      (processAuthorizations keyAuthorization challengePath start turns).1.challenges →
    ∀ call ∈ (processAuthorizations keyAuthorization challengePath start turns).1.ready, ∀ later,
      proofAt challengePath later
          (processAuthorizations keyAuthorization challengePath start turns).1.challenges
          call.token = some (utf8 (keyAuthorization call.token))

/-- Challenges are declared ready only once their proofs are served, and the proofs stay where they
are looked for. -/
theorem challenges_met (keyAuthorization : Text → Text) (challengePath : Option Text)
    (start : OrderProgress) (turns : List AuthorizationTurn) (fresh : start.ready = [])
    (plain : ∀ token ∈ turns.filterMap AuthorizationTurn.pendingToken, PlainToken token)
    (distinct : (turns.filterMap AuthorizationTurn.pendingToken).Nodup) :
    ChallengesMet keyAuthorization challengePath start turns := by
  have calls : ∀ before, before <+: turns → CallsServed keyAuthorization challengePath
      (processAuthorizations keyAuthorization challengePath start before).1 := by
    intro before front
    have tokens := front.sublist.filterMap AuthorizationTurn.pendingToken
    refine CallsServed.processAll (fun call member => ?_) ⟨?_, ?_⟩
    · rw [fresh] at member
      cases member
    · rw [fresh]
      exact fun token member => plain token (tokens.subset member)
    · rw [fresh]
      exact distinct.sublist tokens
  refine ⟨calls, fun success => ?_, fun persistent call member later => ?_⟩
  · rw [ready_processAll success, fresh, List.map_nil, List.nil_append]
  · rw [proofAt_of_persistent persistent
      (processAuthorizations keyAuthorization challengePath start turns).1.now]
    exact calls turns List.prefix_rfl call member _ le_rfl (Or.inl persistent)

/-- An order before anything is served, without a registry. -/
def unservedOrder : OrderProgress :=
  ⟨0, ⟨none, fun _ => none, none⟩, []⟩

/-- A pending authorization whose challenge is served after this time. -/
def pendingTurn (token : Text) (wait : Nat) : AuthorizationTurn :=
  ⟨some ⟨.pending, some token⟩, wait, .finished, true⟩

/-- Two pending authorizations half a minute apart, and a valid one. -/
def mixedAuthorizations : List AuthorizationTurn :=
  [pendingTurn "evaGxfADs6pS".toList 1, ⟨some ⟨.valid, none⟩, 0, .unopened, false⟩,
    pendingTurn "LoqXcYV8q5ON".toList 31000000000]

theorem challenges_met_sample :
    ChallengesMet (· ++ ".9jg46WB3".toList) (some "/srv".toList) unservedOrder
        mixedAuthorizations ∧
      ChallengesMet (· ++ ".9jg46WB3".toList) none unservedOrder mixedAuthorizations := by
  have tokens : mixedAuthorizations.filterMap AuthorizationTurn.pendingToken =
      ["evaGxfADs6pS".toList, "LoqXcYV8q5ON".toList] := rfl
  have plain : ∀ token ∈ mixedAuthorizations.filterMap AuthorizationTurn.pendingToken,
      PlainToken token := by
    rw [tokens]
    intro token member
    rcases List.mem_cons.mp member with rfl | last
    · exact List.all_eq_true.mp (by decide)
    · obtain rfl := List.mem_singleton.mp last
      exact List.all_eq_true.mp (by decide)
  have distinct : (mixedAuthorizations.filterMap AuthorizationTurn.pendingToken).Nodup := by
    rw [tokens]
    decide
  exact ⟨challenges_met _ (some "/srv".toList) unservedOrder _ rfl plain distinct,
    challenges_met _ none unservedOrder _ rfl plain distinct⟩

end AimailBridge
