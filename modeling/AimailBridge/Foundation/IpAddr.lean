import AimailBridge.Foundation.Text

/-!
# IP addresses

The standard library's addresses, and its reading of their textual forms: four decimal octets, or
up to eight hexadecimal groups with one run of zeros left out and the last two groups perhaps
written as octets.
-/

namespace Foundation

open Text

/-- An address, as the number that its octets spell. -/
inductive IpAddr
  /-- An IPv4 address. -/
  | v4 (bits : BitVec 32)
  /-- An IPv6 address. -/
  | v6 (bits : BitVec 128)
  deriving DecidableEq

namespace IpAddr

/-- How many bits an address of this family has. -/
def width : IpAddr → Nat
  | .v4 _ => 32
  | .v6 _ => 128

/-- `Ipv4Addr::UNSPECIFIED`. -/
def unspecified : IpAddr :=
  .v4 0

/-! ## Reading -/

/-- What a reader takes off the front of a text, with the rest. -/
abbrev Reader (α : Type) := Text → Option (α × Text)

/-- `char::to_digit`. -/
def toDigit (radix : Nat) (c : Char) : Option Nat :=
  let digit :=
    if '0' ≤ c ∧ c ≤ '9' then some (c.toNat - '0'.toNat)
    else if 'a' ≤ c ∧ c ≤ 'z' then some (c.toNat - 'a'.toNat + 10)
    else if 'A' ≤ c ∧ c ≤ 'Z' then some (c.toNat - 'A'.toNat + 10)
    else none
  digit.filter (· < radix)

/-- `Parser::read_number`: the digits at the front, if they are neither too many nor too large. -/
def readNumber (size radix maxDigits : Nat) (allowZeroPrefix : Bool) : Reader (BitVec size) :=
  fun s =>
    let digits := s.takeWhile fun c => (toDigit radix c).isSome
    let value := digits.foldl (fun result c => result * radix + (toDigit radix c).getD 0) 0
    if digits = [] ∨ maxDigits < digits.length then none
    else if allowZeroPrefix = false ∧ digits.head? = some '0' ∧ 1 < digits.length then none
    else if value < 2 ^ size then some (BitVec.ofNat size value, s.drop digits.length)
    else none

/-- `Parser::read_separator`: no separator stands before the first item. -/
def readSeparator {α : Type} (separator : Char) (index : Nat) (inner : Reader α) : Reader α
  | [] => if index = 0 then inner [] else none
  | c :: cs =>
      if index = 0 then inner (c :: cs)
      else if c = separator then inner cs
      else none

/-- An octet in decimal, without a leading zero. -/
def readOctet : Reader (BitVec 8) :=
  readNumber 8 10 3 false

/-- A group of an IPv6 address in hexadecimal. -/
def readGroup : Reader (BitVec 16) :=
  readNumber 16 16 4 true

/-- `Parser::read_ipv4_addr`. -/
def readIpv4Addr : Reader (BitVec 32) := fun s => do
  let (one, s) ← readSeparator '.' 0 readOctet s
  let (two, s) ← readSeparator '.' 1 readOctet s
  let (three, s) ← readSeparator '.' 2 readOctet s
  let (four, s) ← readSeparator '.' 3 readOctet s
  return (one ++ two ++ three ++ four, s)

/-- `read_groups`, with `count` of `limit` groups still to fill: the groups, whether the last two
came from an embedded IPv4 address, and the rest. -/
def readGroups (limit : Nat) : Nat → Text → List (BitVec 16) × Bool × Text
  | 0, s => ([], false, s)
  | count + 1, s =>
      let index := limit - (count + 1)
      let embedded := if index < limit - 1 then readSeparator ':' index readIpv4Addr s else none
      match embedded with
      | some (ipv4, rest) => ([ipv4.extractLsb' 16 16, ipv4.extractLsb' 0 16], true, rest)
      | none =>
          match readSeparator ':' index readGroup s with
          | some (group, rest) =>
              let (groups, ipv4, rest) := readGroups limit count rest
              (group :: groups, ipv4, rest)
          | none => ([], false, s)

/-- The address of its groups. -/
def ofGroups (groups : List (BitVec 16)) : BitVec 128 :=
  groups.foldl (fun bits group => bits <<< 16 ||| group.setWidth 128) 0

/-- `Parser::read_ipv6_addr`. -/
def readIpv6Addr : Reader (BitVec 128) := fun s =>
  let (head, embedded, s) := readGroups 8 8 s
  if head.length = 8 then some (ofGroups head, s)
  -- an IPv4 address is not allowed before the run of zeros
  else if embedded then none
  else
    (stripPrefix [':', ':'] s).map fun s =>
      let limit := 8 - (head.length + 1)
      let (tail, _, s) := readGroups limit limit s
      (ofGroups (head ++ List.replicate (8 - head.length - tail.length) 0 ++ tail), s)

/-- `str::parse::<IpAddr>`. -/
def parse (s : Text) : Option IpAddr :=
  let read := ((readIpv4Addr s).map fun (bits, rest) => (IpAddr.v4 bits, rest)).or
    ((readIpv6Addr s).map fun (bits, rest) => (IpAddr.v6 bits, rest))
  read.bind fun (ip, rest) => if rest = [] then some ip else none

example : parse "10.0.0.7".toList = some (.v4 0x0A000007) := by decide

example : parse "::ffff:10.0.0.7".toList = some (.v6 0xFFFF0A000007) := by decide

example : parse " 10.0.0.7".toList = none := by decide

/-! ## Writing -/

/-- The `Display` form of an IPv4 address. -/
def displayV4 (bits : BitVec 32) : Text :=
  List.intercalate ['.'] <|
    [24, 16, 8, 0].map fun shift => decimal (bits.extractLsb' shift 8).toNat

/-- `Ipv6Addr::segments`. -/
def groupsOf (bits : BitVec 128) : List (BitVec 16) :=
  [112, 96, 80, 64, 48, 32, 16, 0].map fun shift => bits.extractLsb' shift 16

/-- Some groups in a row. -/
structure Span where
  /-- Index of the first one. -/
  start : Nat
  /-- How many they are. -/
  length : Nat

/-- The first longest run of zeros. -/
def longestZeros (groups : List (BitVec 16)) : Span :=
  let (_, _, longest) := groups.foldl
    (fun (index, current, longest) group =>
      if group = 0 then
        let current : Span :=
          ⟨if current.length = 0 then index else current.start, current.length + 1⟩
        (index + 1, current, if longest.length < current.length then current else longest)
      else
        (index + 1, ⟨0, 0⟩, longest))
    ((0, ⟨0, 0⟩, ⟨0, 0⟩) : Nat × Span × Span)
  longest

/-- Groups in hexadecimal, with colons between them. -/
def displayGroups (groups : List (BitVec 16)) : Text :=
  List.intercalate [':'] (groups.map fun group => Nat.toDigits 16 group.toNat)

/-- The `Display` form of an IPv6 address. -/
def displayV6 (bits : BitVec 128) : Text :=
  let groups := groupsOf bits
  let zeros := longestZeros groups
  if groups.take 6 = [0, 0, 0, 0, 0, 0xFFFF] then
    "::ffff:".toList ++ displayV4 (bits.extractLsb' 0 32)
  else if 1 < zeros.length then
    displayGroups (groups.take zeros.start) ++ "::".toList ++
      displayGroups (groups.drop (zeros.start + zeros.length))
  else
    displayGroups groups

/-- `IpAddr::to_string`. -/
def display : IpAddr → Text
  | .v4 bits => displayV4 bits
  | .v6 bits => displayV6 bits

example : display (.v4 0x0A000007) = "10.0.0.7".toList := by decide

example : display (.v6 0x20010DB8000000000001000000000001) = "2001:db8::1:0:0:1".toList := by
  decide

end IpAddr
end Foundation
