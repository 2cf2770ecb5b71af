import AimailBridge.Foundation.Json

/-!
# HTTP messages

The requests a client sends, the ways they end, and the interfaces of the crates that encode
bodies and header names.
-/

namespace Foundation

/-- Readings of the monotone clock, in nanoseconds. -/
abbrev Instant := Nat

/-- A body, byte by byte. -/
abbrev Bytes := List UInt8

/-- The bytes of an ASCII text. -/
def asciiBytes (s : Text) : Bytes :=
  s.map fun c => c.toNat.toUInt8

/-- A request to be posted. -/
structure Request where
  /-- URL the request is posted to. -/
  target : Text
  /-- Headers in the order they were added. -/
  headers : List (Text × Text)
  /-- Body. -/
  body : Bytes
  deriving DecidableEq

/-- How a request ends. -/
inductive Answer
  /-- A response with this status. -/
  | status (code : UInt16)
  /-- No response. -/
  | failed
  deriving DecidableEq

/-- A 2xx response. -/
def Answer.isSuccess : Answer → Bool
  | .status code => 200 ≤ code && code < 300
  | .failed => false

/-- A response of a handler. -/
structure Response where
  /-- Status code. -/
  status : UInt16
  /-- Body text. -/
  text : Text
  deriving DecidableEq

/-- What the http crate makes of a header name: it refuses some texts and normalises the rest to
lower case. -/
structure HeaderNames where
  /-- `HeaderName::from_bytes`, as the text that `as_str` gives back. -/
  fromBytes : Text → Option Text
  /-- The name is in lower case. -/
  lower : ∀ raw name, fromBytes raw = some name → ∀ c ∈ name, c.isUpper = false

theorem isUpper_toLower (c : Char) : c.toLower.isUpper = false := by
  simp only [Char.isUpper, Char.toLower]
  grind

/-- A crate that accepts the letters, digits and hyphens of ordinary header names. -/
def HeaderNames.ascii : HeaderNames where
  fromBytes raw :=
    if raw ≠ [] ∧ raw.all (fun c => c.isAlphanum || c == '-') then some (raw.map Char.toLower)
    else none
  lower raw name read := by
    obtain ⟨_, lowered⟩ := Option.ite_none_right_eq_some.mp read
    intro c member
    rw [← Option.some.inj lowered] at member
    obtain ⟨original, _, rfl⟩ := List.mem_map.mp member
    exact isUpper_toLower original

/-- Header names compare without regard to letter case. -/
def sameHeader (left right : Text) : Prop :=
  left.map Char.toLower = right.map Char.toLower

instance (left right : Text) : Decidable (sameHeader left right) :=
  inferInstanceAs (Decidable (left.map Char.toLower = right.map Char.toLower))

/-- The JSON crate, with its errors as texts. -/
structure JsonCrate where
  /-- `serde_json::from_slice`. -/
  fromSlice : Bytes → Except Text Json
  /-- `serde_json::to_vec`. -/
  toVec : Json → Except Text Bytes

end Foundation
