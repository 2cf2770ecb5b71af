import AimailBridge.Foundation.Prefix
import AimailBridge.Push.Filters

/-!
# Ranges as prefixes

The mask of a range is built with a subtraction and a shift whose amount comes from the entry's
text.  The bound that keeps both in order is checked where the entry is parsed.  A range therefore
contains the addresses of its own family that begin as its network does, and the filters ask whether
some entry does; only an allowlist without entries asks nothing.
-/

namespace AimailBridge

open Foundation Text

/-- The mask, in a build whose arithmetic is checked: nothing where it would overflow. -/
def checkedNetmask (width : Nat) (prefixLen : UInt8) : Option (BitVec width) :=
  if prefixLen = 0 then some 0
  else
    (checkedSub (UInt8.ofNat width) prefixLen).bind fun amount =>
      checkedShl (BitVec.allOnes width) amount.toNat

/-- `ip_matches`, in a build whose arithmetic is checked. -/
def checkedIpMatches (ip network : IpAddr) (prefixLen : UInt8) : Option Bool :=
  match ip, network with
  | .v4 ip, .v4 net => (checkedNetmask 32 prefixLen).map fun mask => ip &&& mask == net &&& mask
  | .v6 ip, .v6 net => (checkedNetmask 128 prefixLen).map fun mask => ip &&& mask == net &&& mask
  | _, _ => some false

/-- The addresses are of one family and begin with the same bits. -/
def SameNetwork (prefixLen : UInt8) : IpAddr → IpAddr → Prop
  | .v4 ip, .v4 net => SamePrefix prefixLen.toNat ip net
  | .v6 ip, .v6 net => SamePrefix prefixLen.toNat ip net
  | _, _ => False

/-- Some valid entry of a configured list is a network of the address. -/
def InSomeNetwork (raw : List Text) (ip : IpAddr) : Prop :=
  ∃ s ∈ raw, ∃ entry, parseCidr s = some entry ∧ SameNetwork entry.prefixLen ip entry.network

/-! ## The mask -/

section Mask

variable {width : Nat} {prefixLen : UInt8}

/-- The subtraction and the shift of a prefix that fits into the width of an address. -/
theorem shift_amount (representable : width < 256) (fits : prefixLen.toNat ≤ width)
    (nonzero : prefixLen ≠ 0) :
    prefixLen ≤ UInt8.ofNat width ∧
      (UInt8.ofNat width - prefixLen).toNat = width - prefixLen.toNat ∧
      width - prefixLen.toNat < width := by
  have width_toNat : (UInt8.ofNat width).toNat = width := UInt8.toNat_ofNat_of_lt' representable
  have order : prefixLen ≤ UInt8.ofNat width := by
    rw [UInt8.le_iff_toNat_le, width_toNat]
    exact fits
  have positive : 0 < prefixLen.toNat := by
    refine Nat.pos_of_ne_zero fun zero => nonzero ?_
    exact UInt8.toNat_inj.mp zero
  refine ⟨order, ?_, Nat.sub_lt (Nat.lt_of_lt_of_le positive fits) positive⟩
  rw [UInt8.toNat_sub_of_le _ _ order, width_toNat]

/-- A prefix that fits has the mask of its ones, without a reduction of the shift. -/
theorem netmask_eq (representable : width < 256) (fits : prefixLen.toNat ≤ width)
    (nonzero : prefixLen ≠ 0) :
    netmask width prefixLen = BitVec.allOnes width <<< (width - prefixLen.toNat) := by
  obtain ⟨_, amount, within⟩ := shift_amount representable fits nonzero
  rw [netmask, if_neg nonzero, amount, Nat.mod_eq_of_lt within]

/-- A prefix that fits does not overflow. -/
theorem checkedNetmask_eq (representable : width < 256) (fits : prefixLen.toNat ≤ width) :
    checkedNetmask width prefixLen = some (netmask width prefixLen) := by
  by_cases zero : prefixLen = 0
  · rw [checkedNetmask, if_pos zero, netmask, if_pos zero]
  · obtain ⟨order, amount, within⟩ := shift_amount representable fits zero
    rw [checkedNetmask, if_neg zero, checkedSub_of_le order, Option.bind_some, amount,
      checkedShl_of_lt within, netmask_eq representable fits zero]

/-- Words are equal under the mask of a prefix exactly when they agree on it. -/
theorem netmask_eq_iff (representable : width < 256) (fits : prefixLen.toNat ≤ width)
    (ip net : BitVec width) :
    (ip &&& netmask width prefixLen == net &&& netmask width prefixLen) = true ↔
      SamePrefix prefixLen.toNat ip net := by
  rw [beq_iff_eq]
  by_cases zero : prefixLen = 0
  · subst zero
    simp [netmask, SamePrefix]
  · rw [netmask_eq representable fits zero, mask_eq_iff fits]

end Mask

/-! ## The ranges -/

variable {raw : List Text} {ip : IpAddr}

/-- Whether an address is in a range is decided without an overflow. -/
theorem checkedIpMatches_eq (entry : Cidr) (ip : IpAddr) :
    checkedIpMatches ip entry.network entry.prefixLen =
      some (ipMatches ip entry.network entry.prefixLen) := by
  obtain ⟨network, prefixLen, fits⟩ := entry
  cases ip with
  | v4 ip =>
      cases network with
      | v4 net =>
          have mask := @checkedNetmask_eq 32 prefixLen (by decide) fits
          rw [checkedIpMatches, mask]
          rfl
      | v6 net => rfl
  | v6 ip =>
      cases network with
      | v4 net => rfl
      | v6 net =>
          have mask := @checkedNetmask_eq 128 prefixLen (by decide) fits
          rw [checkedIpMatches, mask]
          rfl

/-- A range contains the addresses that begin as its network does. -/
theorem ipMatches_iff (entry : Cidr) (ip : IpAddr) :
    ipMatches ip entry.network entry.prefixLen = true ↔
      SameNetwork entry.prefixLen ip entry.network := by
  obtain ⟨network, prefixLen, fits⟩ := entry
  cases ip with
  | v4 ip =>
      cases network with
      | v4 net => exact @netmask_eq_iff 32 prefixLen (by decide) fits ip net
      | v6 net => simp [ipMatches, SameNetwork]
  | v6 ip =>
      cases network with
      | v4 net => simp [ipMatches, SameNetwork]
      | v6 net => exact @netmask_eq_iff 128 prefixLen (by decide) fits ip net

theorem lists_iff_inSomeNetwork : Lists raw ip ↔ InSomeNetwork raw ip := by
  simp only [Lists, InSomeNetwork, Cidr.contains, ipMatches_iff]

/-! ## The filters -/

/-- A range that has been read is compared without an overflow and contains what begins as its
network does; the filters look for such a range, and an allowlist without a valid entry lets all
pass. -/
theorem cidrFilters_prefixes (raw : List Text) (ip : IpAddr) :
    (∀ s entry, parseCidr s = some entry →
        checkedIpMatches ip entry.network entry.prefixLen =
            some (ipMatches ip entry.network entry.prefixLen) ∧
          (ipMatches ip entry.network entry.prefixLen = true ↔
            SameNetwork entry.prefixLen ip entry.network)) ∧
      ((IpBlacklist.fromConfig raw).blocks ip = true ↔ InSomeNetwork raw ip) ∧
      ((IpAllowlist.fromConfig raw).allows ip = true ↔
        (∀ s ∈ raw, parseCidr s = none) ∨ InSomeNetwork raw ip) := by
  refine ⟨fun _ entry _ => ⟨checkedIpMatches_eq entry ip, ipMatches_iff entry ip⟩, ?_, ?_⟩
  · rw [blocks_iff, lists_iff_inSomeNetwork]
  · rw [allows_iff, parseIpList_eq_nil, lists_iff_inSomeNetwork]

/-- An empty allowlist allows an address that it does not list. -/
theorem empty_allowlist_allows_all :
    (IpAllowlist.fromConfig []).allows (.v4 0x0A000007) = true ∧
      ¬ InSomeNetwork [] (.v4 0x0A000007) :=
  ⟨rfl, fun ⟨_, member, _⟩ => absurd member List.not_mem_nil⟩

end AimailBridge
