import AimailBridge.Foundation.Text

/-!
# JSON values

The values of a JSON document with the accessors that programs read them by.  Numbers keep the three
forms a reader tells apart; the members of an object are listed in order, each key once.
-/

namespace Foundation

/-- A number, by the form of its literal. -/
inductive JsonNumber
  /-- A natural number that fits 64 bits. -/
  | unsigned (value : UInt64)
  /-- A negative integer that fits 64 bits. -/
  | negative (value : Int64)
  /-- Anything else, as the bits of a double. -/
  | float (bits : UInt64)
  deriving DecidableEq

/-- A JSON value. -/
inductive Json
  /-- `null`. -/
  | null
  /-- `true` or `false`. -/
  | bool (value : Bool)
  /-- A number. -/
  | number (value : JsonNumber)
  /-- A string. -/
  | string (value : Text)
  /-- An array. -/
  | array (items : List Json)
  /-- An object. -/
  | object (members : List (Text × Json))

namespace Json

/-- The member of an object under a key. -/
def get? (key : Text) : Json → Option Json
  | .object members => members.lookup key
  | _ => none

/-- The member of an object under a key, or `null`. -/
def index (value : Json) (key : Text) : Json :=
  (value.get? key).getD .null

/-- The contents of a string. -/
def asStr : Json → Option Text
  | .string value => some value
  | _ => none

/-- The items of an array. -/
def asArray : Json → Option (List Json)
  | .array items => some items
  | _ => none

/-- An integer that fits 64 signed bits. -/
def asI64 : Json → Option Int64
  | .number (.unsigned value) => if value.toNat < 2 ^ 63 then some value.toInt64 else none
  | .number (.negative value) => some value
  | _ => none

/-- An object without the member under a key. -/
def remove (key : Text) : Json → Json
  | .object members => .object (members.filter fun member => member.1 != key)
  | value => value

/-- The members of an object all of whose members are strings. -/
def asStrings : Json → Option (List (Text × Text))
  | .object members => members.mapM fun member => member.2.asStr.map (member.1, ·)
  | _ => none

end Json
end Foundation
