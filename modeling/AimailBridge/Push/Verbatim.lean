import AimailBridge.Foundation.Files
import AimailBridge.Foundation.JsonSpelling
import AimailBridge.Push.Batch

/-!
# The body of a batch

The shared body of a batch is read into a value and written again.  It keeps the bytes that the
signatures were made for exactly when what remains of the payload is compact already: without
blanks, with the keys of every object ascending, and with numbers and strings as they are written.
-/

namespace AimailBridge

open Foundation Text ProfileRouter Push

/-- What the JSON crate does with texts: it reads a value from one of its texts, and writes the
compact text of a value. -/
structure SpeaksJson (tokens : JsonTokens) (json : JsonCrate) : Prop where
  /-- `from_slice` accepts texts only, and gives back what they are texts of. -/
  reads : ∀ payload value, json.fromSlice payload = .ok value → ∃ text, payload = utf8 text ∧
    Padded tokens.reading.blank (fun inner => ∃ depth, tokens.reading.Spells depth inner value) text
  /-- `to_vec` writes the compact text of the value. -/
  writes : ∀ value bytes, json.toVec value = .ok bytes →
    ∃ depth text, bytes = utf8 text ∧ tokens.writing.Spells depth text value

/-- The texts of the members of an object that are kept when one of them is removed. -/
def keptTexts (key : Text) (texts : List Text) (listed : List (Text × Json)) : List Text :=
  ((texts.zip listed).filter fun entry => entry.2.1 != key).map Prod.fst

/-- A payload is an object with a member under this key, and the rest is the object with only that
member and its comma removed. -/
def RestOf (tokens : JsonTokens) (key payload rest : Text) : Prop :=
  ∃ before depth texts listed after, tokens.reading.blank before ∧ tokens.reading.blank after ∧
    payload = before ++ (('\x7B' :: (separated texts ++ ['\x7D'])) ++ after) ∧
    List.Forall₂ (tokens.reading.Member (tokens.reading.Spells depth)) texts listed ∧
    key ∈ listed.map Prod.fst ∧
    rest = '\x7B' :: (separated (keptTexts key texts listed) ++ ['\x7D'])

/-- A text without blanks, in which the keys of every object ascend and each number and string has
the spelling in which it is written. -/
def IsCompact (tokens : JsonTokens) (text : Text) : Prop :=
  ∃ depth value, tokens.compact.Spells depth text value

/-! ## What is left of a payload -/

section Rest

variable {tokens : JsonTokens} {key payload rest : Text} {value : Json}

theorem forall₂_keptTexts {element : Text → Text × Json → Prop} {texts : List Text}
    {listed : List (Text × Json)} (matched : List.Forall₂ element texts listed) :
    List.Forall₂ element (keptTexts key texts listed)
      (listed.filter fun member => member.1 != key) := by
  induction matched with
  | nil => exact List.Forall₂.nil
  | @cons text member texts listed head tail induction =>
      rw [keptTexts, List.zip_cons_cons, List.filter_cons, List.filter_cons]
      split
      · exact List.Forall₂.cons head induction
      · exact induction

/-- What is left of a payload is the text of what is left of its value. -/
theorem rest_spells (lawful : tokens.Lawful) (without : RestOf tokens key payload rest)
    (read : Padded tokens.reading.blank
      (fun inner => ∃ depth, tokens.reading.Spells depth inner value) payload) :
    ∃ depth, tokens.reading.Spells depth rest (value.remove key) := by
  have proper := proper_reading lawful
  obtain ⟨before, depth, texts, listed, after, front, back, rfl, members, present, rfl⟩ := without
  have nonempty : listed ≠ [] := by
    rintro rfl
    exact List.not_mem_nil present
  have object : Padded tokens.reading.blank
      (fun inner => ∃ depth, tokens.reading.Spells depth inner (.object (collect listed)))
      (before ++ (('\x7B' :: (separated texts ++ ['\x7D'])) ++ after)) :=
    ⟨before, _, after, front, ⟨depth + 1, texts, listed, rfl, Or.inr ⟨nonempty, members⟩, rfl⟩,
      back, rfl⟩
  obtain ⟨_, inner, _, _, ⟨⟨_, spells⟩, ⟨_, spells'⟩⟩, _⟩ :=
    padded_unique proper.blank proper.blank
      (by rintro inner ⟨depth, spells⟩; exact solid_of_spells proper spells)
      (by rintro inner ⟨depth, spells⟩; exact solid_of_spells proper spells) read object
  obtain rfl := reading_unique lawful spells spells'
  have kept := @forall₂_keptTexts key _ _ _ members
  rw [Json.remove, ← collect_filter (· != key)]
  refine ⟨depth + 1, ?_⟩
  by_cases empty : (listed.filter fun member => member.1 != key) = []
  · rw [empty] at kept ⊢
    rw [List.forall₂_nil_right_iff.mp kept]
    refine ⟨[[]], [], rfl, Or.inl ⟨rfl, [], ?_, rfl⟩, rfl⟩
    exact fun _ member => absurd member List.not_mem_nil
  · exact ⟨_, _, rfl, Or.inr ⟨empty, kept⟩, rfl⟩

end Rest

/-! ## What is sent -/

/-- What a batch sends is the payload without its array, byte for byte, exactly when that is a
compact text. -/
theorem body_verbatim_iff (tokens : JsonTokens) (lawful : tokens.Lawful) (json : JsonCrate)
    (speaks : SpeaksJson tokens json) (regex : RegexCrate) (forward : List Text)
    (turns : Nat → EntryTurn) (router : ProfileRouter) (payload rest : Text)
    (without : RestOf tokens "signatures".toList payload rest) (log : EntryLog)
    (member : log ∈ (handleBatchWebhook json regex forward turns router (utf8 payload)).2.2)
    (request : Request) (sent : log.request = some request) :
    request.body = utf8 rest ↔ IsCompact tokens rest := by
  obtain ⟨⟨batch, read, written⟩, _⟩ := handleBatchWebhook_request member sent
  obtain ⟨text, same, padded⟩ := speaks.reads (utf8 payload) batch read
  obtain rfl := utf8_injective same
  obtain ⟨depth, spells⟩ := rest_spells lawful without padded
  obtain ⟨depth', text, body, writes⟩ := speaks.writes _ _ written
  rw [body]
  constructor
  · intro verbatim
    rw [utf8_injective verbatim] at writes
    exact ⟨depth, _, compact_of_reading_writing lawful spells writes⟩
  · rintro ⟨_, value, compact⟩
    obtain rfl := reading_unique lawful spells (reading_of_compact compact)
    rw [writing_unique lawful writes (writing_of_compact compact)]

/-! ## A payload whose members do not ascend -/

/-- A character that stands for itself between quotes. -/
def needsNoEscape (c : Char) : Bool :=
  c != '"' && c != '\\'

/-- Tokens of natural numbers, and of strings that need no escape. -/
def plainTokens : JsonTokens where
  readsNumber text value := ∃ n : UInt64, text = decimal n.toNat ∧ value = .unsigned n
  writesNumber value text := ∃ n : UInt64, text = decimal n.toNat ∧ value = .unsigned n
  readsString raw value := raw = value ∧ value.all needsNoEscape = true
  writesString value raw := raw = value ∧ value.all needsNoEscape = true

theorem stringBody_of_plain {raw : Text} (plain : raw.all needsNoEscape = true) :
    StringBody raw := by
  induction raw with
  | nil => exact StringBody.nil
  | cons c raw induction =>
      obtain ⟨first, rest⟩ := Bool.and_eq_true_iff.mp plain
      obtain ⟨no_quote, no_escape⟩ := Bool.and_eq_true_iff.mp first
      exact StringBody.plain (by simpa using no_quote) (by simpa using no_escape) (induction rest)

theorem plainTokens_lawful : plainTokens.Lawful where
  reads_number := by
    rintro _ _ _ ⟨n, rfl, rfl⟩ ⟨m, same, rfl⟩
    rw [UInt64.toNat_inj.mp (decimal_injective same)]
  writes_number := by
    rintro _ _ _ ⟨n, rfl, rfl⟩ ⟨m, rfl, same⟩
    rw [JsonNumber.unsigned.inj same]
  read_number := by
    rintro _ _ ⟨n, rfl, rfl⟩
    exact ⟨decimal_ne_nil _, fun c member => by simp [isNumberChar, isDigit_of_mem_decimal member]⟩
  written_number := by
    rintro _ _ ⟨n, rfl, rfl⟩
    exact ⟨decimal_ne_nil _, fun c member => by simp [isNumberChar, isDigit_of_mem_decimal member]⟩
  reads_string := by
    rintro _ _ _ ⟨rfl, _⟩ ⟨rfl, _⟩
    rfl
  writes_string := by
    rintro _ _ _ ⟨rfl, _⟩ ⟨rfl, _⟩
    rfl
  read_string := by
    rintro _ _ ⟨rfl, plain⟩
    exact stringBody_of_plain plain
  written_string := fun _ _ written => written

/-- A member without blanks. -/
def memberText (key value : Text) : Text :=
  quoted key ++ ':' :: value

/-- An object of such members. -/
def objectText (members : List Text) : Text :=
  '\x7B' :: (separated members ++ ['\x7D'])

/-- A list of one recipient. -/
def recipientsText : Text :=
  '[' :: (separated [objectText [memberText "email".toList (quoted "bot@x.org".toList)]] ++ [']'])

/-- The member with this list. -/
def recipientText : Text :=
  memberText "signatures".toList recipientsText

/-- The value of the list. -/
def recipients : Json :=
  .array [.object [("email".toList, .string "bot@x.org".toList)]]

/-- Two members in the order in which the sender lists them. -/
def listedTexts : List Text :=
  [memberText "b".toList (decimal 1), memberText "a".toList (decimal 2)]

/-- A batch with these two members. -/
def unorderedPayload : Text :=
  objectText (listedTexts ++ [recipientText])

/-- What is read of it. -/
def unorderedBatch : Json :=
  .object [("a".toList, .number (.unsigned 2)), ("b".toList, .number (.unsigned 1)),
    ("signatures".toList, recipients)]

/-- A crate that reads that payload, and writes what is left of it. -/
def unorderedJson : JsonCrate where
  fromSlice payload := if payload = utf8 unorderedPayload then .ok unorderedBatch
    else .error "expected value".toList
  toVec
    | .object [(first, .number (.unsigned 2)), (second, .number (.unsigned 1))] =>
        if first = "a".toList ∧ second = "b".toList then
          .ok (utf8 (objectText listedTexts.reverse))
        else .error "unsupported".toList
    | _ => .error "unsupported".toList

section Unordered

variable {style : JsonStyle} {depth : Nat} {key text : Text} {value : Json}

theorem member_memberText (unpadded : style.blank []) (spelled : style.string key key)
    (spells : style.Spells depth text value) :
    style.Member (style.Spells depth) (memberText key text) (key, value) :=
  ⟨quoted key, text, rfl, ⟨[], quoted key, [], unpadded, ⟨key, spelled, rfl⟩, unpadded, by simp⟩,
    ⟨[], text, [], unpadded, spells, unpadded, by simp⟩⟩

/-- The text of the recipients is read as their list. -/
theorem spells_recipients : plainTokens.reading.Spells 3 recipientsText recipients := by
  have unpadded : plainTokens.reading.blank [] := fun _ member => absurd member List.not_mem_nil
  have email : plainTokens.reading.Spells 1 (quoted "bot@x.org".toList)
      (.string "bot@x.org".toList) := ⟨_, ⟨rfl, rfl⟩, rfl⟩
  have entry : plainTokens.reading.Spells 2
      (objectText [memberText "email".toList (quoted "bot@x.org".toList)])
      (.object [("email".toList, .string "bot@x.org".toList)]) :=
    ⟨_, [_], rfl, Or.inr ⟨List.cons_ne_nil _ _, List.Forall₂.cons
      (member_memberText unpadded ⟨rfl, rfl⟩ email) List.Forall₂.nil⟩, rfl⟩
  exact ⟨_, rfl, Or.inr ⟨List.cons_ne_nil _ _, List.Forall₂.cons
    ⟨[], _, [], unpadded, entry, unpadded, by simp⟩ List.Forall₂.nil⟩⟩

/-- The members of the payload, as they are listed. -/
theorem members_unordered : List.Forall₂
    (plainTokens.reading.Member (plainTokens.reading.Spells 3)) (listedTexts ++ [recipientText])
    [("b".toList, .number (.unsigned 1)), ("a".toList, .number (.unsigned 2)),
      ("signatures".toList, recipients)] := by
  have unpadded : plainTokens.reading.blank [] := fun _ member => absurd member List.not_mem_nil
  refine List.Forall₂.cons ?_ (List.Forall₂.cons ?_ (List.Forall₂.cons ?_ List.Forall₂.nil))
  · exact member_memberText unpadded ⟨rfl, rfl⟩ ⟨1, rfl, rfl⟩
  · exact member_memberText unpadded ⟨rfl, rfl⟩ ⟨2, rfl, rfl⟩
  · exact member_memberText unpadded ⟨rfl, rfl⟩ spells_recipients

theorem unorderedJson_speaks : SpeaksJson plainTokens unorderedJson where
  reads payload value read := by
    have unpadded : plainTokens.reading.blank [] := fun _ member => absurd member List.not_mem_nil
    obtain ⟨rfl, rfl⟩ : payload = utf8 unorderedPayload ∧ unorderedBatch = value := by
      by_cases same : payload = utf8 unorderedPayload
      · exact ⟨same, Except.ok.inj ((if_pos same).symm.trans read)⟩
      · have rejected := (if_neg same).symm.trans read
        cases rejected
    refine ⟨unorderedPayload, rfl, [], unorderedPayload, [], unpadded, ⟨4, _, _, rfl,
      Or.inr ⟨List.cons_ne_nil _ _, members_unordered⟩, ?_⟩, unpadded, by simp⟩
    rfl
  writes value bytes written := by
    simp only [unorderedJson] at written
    split at written
    · split at written
      · next ordered =>
          obtain ⟨rfl, rfl⟩ := ordered
          refine ⟨2, _, (Except.ok.inj written).symm, _, _, rfl, Or.inr ⟨List.cons_ne_nil _ _,
            List.Forall₂.cons ?_ (List.Forall₂.cons ?_ List.Forall₂.nil)⟩, rfl⟩
          · exact member_memberText rfl ⟨rfl, rfl⟩ ⟨2, rfl, rfl⟩
          · exact member_memberText rfl ⟨rfl, rfl⟩ ⟨1, rfl, rfl⟩
      · cases written
    · cases written

/-- What is left of the payload are the two members as they were listed. -/
theorem rest_unordered : RestOf plainTokens "signatures".toList unorderedPayload
    (objectText listedTexts) :=
  ⟨[], 3, _, _, [], fun _ member => absurd member List.not_mem_nil,
    fun _ member => absurd member List.not_mem_nil, by simp [unorderedPayload, objectText],
    members_unordered, by decide, rfl⟩

/-- The request for the recipient: its members ascend. -/
def orderedRequest : Request where
  target := (ProfileRoute.new "bot@x.org".toList "10.0.0.7".toList 8645).targetUrl
  headers := []
  body := utf8 (objectText listedTexts.reverse)

theorem orderedRequest_sent : ∃ log ∈ (handleBatchWebhook unorderedJson RegexCrate.simple []
    (fun _ => ⟨id, .status 200⟩) sampleRouter (utf8 unorderedPayload)).2.2,
    log.request = some orderedRequest := by
  have read : unorderedJson.fromSlice (utf8 unorderedPayload) = .ok unorderedBatch := by
    simp only [unorderedJson, if_true]
  rw [handleBatchWebhook, read]
  exact ⟨_, List.mem_cons_self, rfl⟩

theorem body_verbatim_iff_ordered :
    orderedRequest.body = utf8 (objectText listedTexts) ↔
      IsCompact plainTokens (objectText listedTexts) := by
  obtain ⟨log, member, sent⟩ := orderedRequest_sent
  exact body_verbatim_iff plainTokens plainTokens_lawful unorderedJson unorderedJson_speaks
    RegexCrate.simple [] _ sampleRouter unorderedPayload _ rest_unordered log member _ sent

/-- The members that the sender lists as `b` and `a` are sent as `a` and `b`. -/
theorem members_reordered :
    RestOf plainTokens "signatures".toList unorderedPayload (objectText listedTexts) ∧
      (∃ log ∈ (handleBatchWebhook unorderedJson RegexCrate.simple []
        (fun _ => ⟨id, .status 200⟩) sampleRouter (utf8 unorderedPayload)).2.2,
        log.request = some orderedRequest) ∧
      orderedRequest.body ≠ utf8 (objectText listedTexts) := by
  refine ⟨rest_unordered, orderedRequest_sent, fun same => ?_⟩
  have texts : objectText listedTexts.reverse = objectText listedTexts := utf8_injective same
  exact absurd texts (by decide)

end Unordered

end AimailBridge
