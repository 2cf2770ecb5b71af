import AimailBridge.Foundation.IpText
import AimailBridge.Security.Allowlists
import AimailBridge.Security.Prefixes

/-!
# Ranges as they are written

Whoever writes the addresses and the networks of a list in their usual form gets a filter for
exactly these, in the configuration file as well as in the environment.
-/

namespace AimailBridge

open Foundation Text IpAddr Admin

/-- An entry that is written into a list. -/
inductive WrittenRange
  /-- An address. -/
  | address (ip : IpAddr)
  /-- A network. -/
  | network (range : Cidr)

namespace WrittenRange

/-- The entry as it is written. -/
def text : WrittenRange → Text
  | .address ip => display ip
  | .network range => display range.network ++ '/' :: decimal range.prefixLen.toNat

/-- The addresses that the entry is written for. -/
def Covers : WrittenRange → IpAddr → Prop
  | .address own, ip => ip = own
  | .network range, ip => SameNetwork range.prefixLen ip range.network

end WrittenRange

/-! ## Reading back -/

section Reading

theorem splitOnce_eq_none {separator s : Text} (absent : ¬ separator <:+: s) :
    splitOnce separator s = none := by
  rw [Option.eq_none_iff_forall_not_mem]
  rintro ⟨front, back⟩ split
  exact absent ⟨front, back, (splitOnce_eq_some_append split).symm⟩

theorem parseU8_decimal (n : UInt8) : parseU8 (decimal n.toNat) = some n := by
  rw [parseU8, parseUnsigned_decimal n.toNat_lt]
  exact congrArg some (UInt8.toNat_inj.mp rfl)

theorem slash_not_mem_display (ip : IpAddr) : '/' ∉ display ip :=
  not_mem_display (by decide) (by decide) (by decide) ip

/-- The prefix of an address alone is all of it. -/
theorem parseCidr_display (ip : IpAddr) : ∃ entry : Cidr, parseCidr (display ip) = some entry ∧
    entry.network = ip ∧ entry.prefixLen.toNat = ip.width := by
  have alone : splitOnce ['/'] (display ip) = none := by
    refine splitOnce_eq_none fun ⟨front, back, same⟩ => slash_not_mem_display ip ?_
    rw [← same]
    simp
  cases ip with
  | v4 bits =>
      have no_colon : ':' ∉ display (.v4 bits) := colon_not_mem_of_v4 (parse_display _)
      refine ⟨⟨.v4 bits, 32, Nat.le_refl 32⟩, ?_, rfl, rfl⟩
      simp [parseCidr, alone, no_colon, parse_display, width]
  | v6 bits =>
      have colon : ':' ∈ display (.v6 bits) := colon_mem_of_v6 (parse_display _)
      refine ⟨⟨.v6 bits, 128, Nat.le_refl 128⟩, ?_, rfl, rfl⟩
      simp [parseCidr, alone, colon, parse_display, width]

/-- A network reads back as it is. -/
theorem parseCidr_network (range : Cidr) :
    parseCidr (WrittenRange.network range).text = some range := by
  have split := splitOnce_singleton (slash_not_mem_display range.network)
    (decimal range.prefixLen.toNat)
  obtain ⟨network, prefixLen, fits⟩ := range
  simp only [WrittenRange.text, parseCidr, split, parseU8_decimal, Option.map_some,
    Option.bind_some, parse_display]
  exact dif_pos fits

/-- Addresses that begin alike in all their bits are the same. -/
theorem sameNetwork_full {ip own : IpAddr} {prefixLen : UInt8}
    (full : prefixLen.toNat = own.width) : SameNetwork prefixLen ip own ↔ ip = own := by
  have whole : ∀ {width : Nat} (left right : BitVec width), prefixLen.toNat = width →
      (SamePrefix prefixLen.toNat left right ↔ left = right) := by
    rintro width left right rfl
    constructor
    · exact fun same => BitVec.eq_of_getMsbD_eq fun i bound => same i bound
    · rintro rfl i _
      rfl
  cases own with
  | v4 own =>
      cases ip with
      | v4 ip => simpa [SameNetwork] using whole ip own full
      | v6 ip => simp [SameNetwork]
  | v6 own =>
      cases ip with
      | v4 ip => simp [SameNetwork]
      | v6 ip => simpa [SameNetwork] using whole ip own full

/-- An entry is read as a range of what it is written for. -/
theorem parseCidr_text (range : WrittenRange) : ∃ entry : Cidr,
    parseCidr range.text = some entry ∧ ∀ ip, entry.contains ip = true ↔ range.Covers ip := by
  cases range with
  | address own =>
      obtain ⟨entry, parsed, rfl, full⟩ := parseCidr_display own
      refine ⟨entry, parsed, fun ip => ?_⟩
      rw [Cidr.contains, ipMatches_iff]
      exact sameNetwork_full full
  | network range =>
      exact ⟨range, parseCidr_network range, fun ip => ipMatches_iff range ip⟩

theorem lists_text {ranges : List WrittenRange} {ip : IpAddr} :
    Lists (ranges.map WrittenRange.text) ip ↔ ∃ range ∈ ranges, range.Covers ip := by
  rw [Lists]
  constructor
  · rintro ⟨_, member, entry, parsed, inside⟩
    obtain ⟨range, listed, rfl⟩ := List.mem_map.mp member
    obtain ⟨same, read, covers⟩ := parseCidr_text range
    obtain rfl := Option.some.inj (read.symm.trans parsed)
    exact ⟨range, listed, (covers ip).mp inside⟩
  · rintro ⟨range, listed, inside⟩
    obtain ⟨entry, parsed, covers⟩ := parseCidr_text range
    exact ⟨range.text, List.mem_map_of_mem listed, entry, parsed, (covers ip).mpr inside⟩

theorem parseIpList_text {ranges : List WrittenRange} :
    parseIpList (ranges.map WrittenRange.text) = [] ↔ ranges = [] := by
  rw [parseIpList_eq_nil]
  constructor
  · intro invalid
    rw [List.eq_nil_iff_forall_not_mem]
    intro range listed
    obtain ⟨entry, parsed, _⟩ := parseCidr_text range
    rw [invalid _ (List.mem_map_of_mem listed)] at parsed
    cases parsed
  · rintro rfl s member
    exact absurd member List.not_mem_nil

end Reading

/-! ## The environment -/

section Environment

variable {range : WrittenRange}

/-- An entry consists of the characters of an address, and perhaps a slash. -/
theorem not_mem_text {c : Char} (not_dot : c ≠ '.') (not_colon : c ≠ ':') (not_slash : c ≠ '/')
    (no_digit : ∀ digit < 16, c ≠ Nat.digitChar digit) : c ∉ range.text := by
  have outside := not_mem_display not_dot not_colon no_digit
  cases range with
  | address ip => exact outside ip
  | network range =>
      rw [WrittenRange.text, List.mem_append, List.mem_cons, not_or, not_or]
      refine ⟨outside _, not_slash, fun member => ?_⟩
      obtain ⟨digit, small, same⟩ := mem_toDigits (by omega) member
      exact no_digit digit (by omega) same

theorem not_isWhitespace_of_mem {c : Char} (member : c ∈ range.text) :
    isWhitespace c = false := by
  have digits : ∀ digit < 16, isWhitespace (Nat.digitChar digit) = false := by decide
  by_contra blank
  rw [Bool.not_eq_false] at blank
  refine not_mem_text ?_ ?_ ?_ ?_ member
  · rintro rfl
    exact absurd blank (by decide)
  · rintro rfl
    exact absurd blank (by decide)
  · rintro rfl
    exact absurd blank (by decide)
  · rintro digit small rfl
    rw [digits digit small] at blank
    cases blank

theorem trim_text (range : WrittenRange) : trim range.text = range.text := by
  refine trim_of_tight ?_ ?_
  · rintro ⟨c, first, blank⟩
    rw [not_isWhitespace_of_mem (List.mem_of_head? first)] at blank
    cases blank
  · rintro ⟨c, last, blank⟩
    rw [not_isWhitespace_of_mem (List.mem_of_getLast? last)] at blank
    cases blank

/-- The entries with commas between them, as in the environment. -/
def commaSeparated (ranges : List WrittenRange) : Text :=
  List.intercalate [','] (ranges.map WrittenRange.text)

/-- The variable gives the entries that are written into it. -/
theorem loadAllowedIps_commaSeparated (file : List Text) {ranges : List WrittenRange}
    (nonempty : ranges ≠ []) : loadAllowedIps file (some (commaSeparated ranges)) =
      ranges.map WrittenRange.text := by
  have no_comma : ∀ text ∈ ranges.map WrittenRange.text, ',' ∉ text := by
    intro text member
    obtain ⟨range, _, rfl⟩ := List.mem_map.mp member
    exact not_mem_text (by decide) (by decide) (by decide) (by decide)
  rw [loadAllowedIps, commaSeparated,
    List.splitOn_intercalate ',' no_comma (by simpa using nonempty), List.map_map]
  exact List.map_congr_left fun range _ => trim_text range

end Environment

/-! ## The filters -/

/-- The filters with a list let exactly the addresses pass that some entry is written for, and the
blacklist with it blocks exactly these. -/
structure FiltersWritten (ranges : List WrittenRange) (raw : List Text) (ip : IpAddr) : Prop where
  /-- The blacklist. -/
  blocks : (IpBlacklist.fromConfig raw).blocks ip = true ↔ ∃ range ∈ ranges, range.Covers ip
  /-- The allowlist of the push server. -/
  push : ∀ request windows, request.peer = some ip →
    (Admits (allowlistCheck PushReply.status raw) request windows ↔
      ∃ range ∈ ranges, range.Covers ip)
  /-- The allowlist of the admin API. -/
  admin : ∀ request router, request.peer = some ip →
    (Admits (adminCheck raw) request router ↔ ∃ range ∈ ranges, range.Covers ip)

/-- Addresses and networks that are written into a list, or with commas into the environment, are
filtered exactly as they are meant. -/
theorem written_filtered (ranges : List WrittenRange) (nonempty : ranges ≠ []) (file : List Text)
    (ip : IpAddr) :
    FiltersWritten ranges (ranges.map WrittenRange.text) ip ∧
      FiltersWritten ranges (loadAllowedIps file (some (commaSeparated ranges))) ip := by
  have some_valid : parseIpList (ranges.map WrittenRange.text) ≠ [] :=
    fun invalid => nonempty (parseIpList_text.mp invalid)
  have written : FiltersWritten ranges (ranges.map WrittenRange.text) ip := by
    refine ⟨blocks_iff.trans lists_text, ?_, ?_⟩
    · intro request windows peer
      rw [admits_allowlistCheck peer, or_iff_right some_valid, lists_text]
    · intro request router peer
      rw [admits_adminCheck peer, or_iff_right some_valid, lists_text]
  rw [loadAllowedIps_commaSeparated file nonempty]
  exact ⟨written, written⟩

/-- An address and a network of the other family. -/
theorem written_filtered_sample :
    (IpBlacklist.fromConfig ["10.0.0.7".toList, "2001:db8::/32".toList]).blocks
      (.v6 0x20010DB8000000000000000000000001) = true := by
  have filtered := (written_filtered
    [.address (.v4 0x0A000007), .network ⟨.v6 0x20010DB8000000000000000000000000, 32, by decide⟩]
    (by simp) [] (.v6 0x20010DB8000000000000000000000001)).1
  refine filtered.blocks.mpr ⟨_, List.mem_cons_of_mem _ List.mem_cons_self, ?_⟩
  change ∀ i < 32, _
  decide

end AimailBridge
