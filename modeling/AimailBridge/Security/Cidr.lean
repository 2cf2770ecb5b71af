import AimailBridge.Foundation.IpAddr

/-!
# Address ranges

The entries of allowlists and blacklists: an address, or a network with the length of its prefix.
-/

namespace AimailBridge

open Foundation Text

/-- A network with the length of its prefix, which its addresses have room for. -/
structure Cidr where
  /-- An address of the network. -/
  network : IpAddr
  /-- How many leading bits the addresses of the network share. -/
  prefixLen : UInt8
  /-- There are that many bits. -/
  fits : prefixLen.toNat ≤ network.width
  deriving DecidableEq

/-- The mask of a prefix, with the machine's subtraction and shift. -/
def netmask (width : Nat) (prefixLen : UInt8) : BitVec width :=
  if prefixLen = 0 then 0
  else BitVec.allOnes width <<< ((UInt8.ofNat width - prefixLen).toNat % width)

/-- Check if an IP matches a CIDR entry. -/
def ipMatches (ip network : IpAddr) (prefixLen : UInt8) : Bool :=
  match ip, network with
  | .v4 ip, .v4 net => ip &&& netmask 32 prefixLen == net &&& netmask 32 prefixLen
  | .v6 ip, .v6 net => ip &&& netmask 128 prefixLen == net &&& netmask 128 prefixLen
  | _, _ => false

/-- Parse `192.168.1.1` or `10.0.0.0/8`. -/
def parseCidr (s : Text) : Option Cidr :=
  let entry :=
    match splitOnce ['/'] s with
    | some (ip, pfx) => (parseU8 pfx).map (ip, ·)
    | none => some (s, if ':' ∈ s then 128 else 32)
  entry.bind fun (ip, prefixLen) =>
    (IpAddr.parse ip).bind fun ip =>
      if fits : prefixLen.toNat ≤ ip.width then some ⟨ip, prefixLen, fits⟩ else none

/-- The entries of a configured list; invalid ones are skipped. -/
def parseIpList (raw : List Text) : List Cidr :=
  raw.filterMap parseCidr

/-- The range contains the address. -/
def Cidr.contains (entry : Cidr) (ip : IpAddr) : Bool :=
  ipMatches ip entry.network entry.prefixLen

theorem ipMatches_self (ip : IpAddr) (prefixLen : UInt8) : ipMatches ip ip prefixLen = true := by
  cases ip <;> simp [ipMatches]

/-- Some entry of a configured list is a valid range that contains the address. -/
def Lists (raw : List Text) (ip : IpAddr) : Prop :=
  ∃ s ∈ raw, ∃ entry, parseCidr s = some entry ∧ entry.contains ip = true

theorem lists_iff {raw : List Text} {ip : IpAddr} :
    Lists raw ip ↔ (parseIpList raw).any (fun entry => entry.contains ip) = true := by
  simp only [Lists, parseIpList, List.any_eq_true, List.mem_filterMap]
  constructor
  · rintro ⟨s, member, entry, parsed, inside⟩
    exact ⟨entry, ⟨s, member, parsed⟩, inside⟩
  · rintro ⟨entry, ⟨s, member, parsed⟩, inside⟩
    exact ⟨s, member, entry, parsed, inside⟩

instance (raw : List Text) (ip : IpAddr) : Decidable (Lists raw ip) :=
  decidable_of_iff _ lists_iff.symm

theorem parseIpList_eq_nil {raw : List Text} :
    parseIpList raw = [] ↔ ∀ s ∈ raw, parseCidr s = none :=
  List.filterMap_eq_nil_iff

theorem not_lists {raw : List Text} (invalid : parseIpList raw = []) (ip : IpAddr) :
    ¬ Lists raw ip := by
  simp [lists_iff, invalid]

/-- A list with a valid entry lists an address. -/
theorem exists_lists {raw : List Text} (valid : parseIpList raw ≠ []) : ∃ ip, Lists raw ip := by
  obtain ⟨entry, member⟩ := List.exists_mem_of_ne_nil _ valid
  refine ⟨entry.network, lists_iff.mpr (List.any_eq_true.mpr ⟨entry, member, ?_⟩)⟩
  exact ipMatches_self entry.network entry.prefixLen

end AimailBridge
