import AimailBridge.Foundation.IpAddr

/-!
# Socket addresses

The standard library's reading of an address with a port.  The port is what follows the last colon,
so that readers that cut there agree on it.
-/

namespace Foundation

open Text

namespace IpAddr

/-- What the reader leaves is the end of what it is given. -/
def LeavesEnd {α : Type} (reader : Reader α) : Prop :=
  ∀ s found rest, reader s = some (found, rest) → rest <:+ s

section Ends

variable {α : Type} {reader : Reader α}

theorem LeavesEnd.separated (ends : LeavesEnd reader) (separator : Char) (index : Nat) :
    LeavesEnd (readSeparator separator index reader) := by
  intro s found rest read
  cases s with
  | nil =>
      rw [readSeparator] at read
      split at read
      · exact ends _ _ _ read
      · cases read
  | cons c cs =>
      rw [readSeparator] at read
      split at read
      · exact ends _ _ _ read
      · split at read
        · exact (ends _ _ _ read).trans (List.suffix_cons c cs)
        · cases read

end Ends
end IpAddr

/-- An IP address with a port and, in version 6, a scope. -/
structure SocketAddr where
  /-- The address. -/
  ip : IpAddr
  /-- The scope. -/
  scope : BitVec 32
  /-- The port. -/
  port : BitVec 16
  deriving DecidableEq

namespace SocketAddr

open IpAddr

/-- `Parser::read_port`. -/
def readPort : Reader (BitVec 16) := fun s =>
  (stripPrefix [':'] s).bind fun rest => readNumber 16 10 rest.length true rest

/-- `Parser::read_scope_id`; it may be missing. -/
def readScope (s : Text) : BitVec 32 × Text :=
  ((stripPrefix ['%'] s).bind fun rest => readNumber 32 10 rest.length true rest).getD (0, s)

/-- `Parser::read_socket_addr_v4`. -/
def readV4 : Reader SocketAddr := fun s => do
  let (bits, s) ← readIpv4Addr s
  let (port, s) ← readPort s
  return (⟨.v4 bits, 0, port⟩, s)

/-- `Parser::read_socket_addr_v6`. -/
def readV6 : Reader SocketAddr := fun s => do
  let s ← stripPrefix ['['] s
  let (bits, s) ← readIpv6Addr s
  let (scope, s) := readScope s
  let s ← stripPrefix [']'] s
  let (port, s) ← readPort s
  return (⟨.v6 bits, scope, port⟩, s)

/-- `str::parse::<SocketAddr>`. -/
def parse (s : Text) : Option SocketAddr :=
  ((readV4 s).or (readV6 s)).bind fun (address, rest) => if rest = [] then some address else none

example : parse "10.0.0.7:8080".toList = some ⟨.v4 0x0A000007, 0, 8080⟩ := by decide

example : parse "[::1%3]:00080".toList = some ⟨.v6 1, 3, 80⟩ := by decide

example : parse "10.0.0.7".toList = none := by decide

/-! ## The port -/

end SocketAddr
end Foundation
