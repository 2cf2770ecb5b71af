import AimailBridge.Foundation.IpAddr

/-!
# Colons in address literals

An IPv4 literal has no colon and an IPv6 literal has one, and what stands before the first colon of
an IPv6 literal is no address itself.
-/

namespace Foundation
namespace IpAddr

open Text

/-- The reader does not read beyond the place where the tail begins. -/
def StopsAt {α : Type} (reader : Reader α) (tail : Text) : Prop :=
  ∀ s, reader (s ++ tail) = (reader s).map fun read => (read.1, read.2 ++ tail)

variable {s tail : Text}

/-! ## Readers of octets -/

theorem toDigit_colon (radix : Nat) : toDigit radix ':' = none := rfl

theorem readNumber_stopsAt (size radix maxDigits : Nat) (allowZeroPrefix : Bool) (tail : Text) :
    StopsAt (readNumber size radix maxDigits allowZeroPrefix) (':' :: tail) := by
  intro s
  have digits : (s ++ ':' :: tail).takeWhile (fun c => (toDigit radix c).isSome) =
      s.takeWhile fun c => (toDigit radix c).isSome := by
    rw [List.takeWhile_append]
    split
    · next whole =>
        rw [(List.takeWhile_prefix _).eq_of_length whole, List.takeWhile_cons_of_neg (by
          simp [toDigit_colon]), List.append_nil]
    · rfl
  have short : (s.takeWhile fun c => (toDigit radix c).isSome).length ≤ s.length :=
    (List.takeWhile_prefix _).length_le
  simp only [readNumber, digits, List.drop_append_of_le_length short]
  split_ifs <;> rfl

theorem readSeparator_stopsAt {α : Type} {separator : Char} (other : separator ≠ ':') (index : Nat)
    {inner : Reader α} (stops : StopsAt inner (':' :: tail)) :
    StopsAt (readSeparator separator index inner) (':' :: tail) := by
  intro s
  cases s with
  | nil =>
      by_cases first : index = 0
      · simpa [readSeparator, first] using stops []
      · simp [readSeparator, first, other.symm]
  | cons c cs =>
      by_cases first : index = 0
      · simpa [readSeparator, first] using stops (c :: cs)
      · by_cases same : c = separator
        · simpa [readSeparator, first, same] using stops cs
        · simp [readSeparator, first, same]

/-- Reading an IPv4 address stops at a colon. -/
theorem readIpv4Addr_stopsAt (tail : Text) : StopsAt readIpv4Addr (':' :: tail) := by
  intro s
  have octet : ∀ index, StopsAt (readSeparator '.' index readOctet) (':' :: tail) := fun index =>
    readSeparator_stopsAt (by decide) index (readNumber_stopsAt 8 10 3 false tail)
  have chain : ∀ {α β : Type} {reader : Reader α} {next : α → Reader β},
      StopsAt reader (':' :: tail) → (∀ a, StopsAt (next a) (':' :: tail)) →
      StopsAt (fun s => (reader s).bind fun read => next read.1 read.2) (':' :: tail) := by
    intro α β reader next stops nexts s
    dsimp only
    rw [stops s]
    cases reader s with
    | none => rfl
    | some read => exact nexts read.1 read.2
  have done : ∀ one two three four : BitVec 8,
      StopsAt (fun s => some (one ++ two ++ three ++ four, s)) (':' :: tail) :=
    fun _ _ _ _ _ => rfl
  exact chain (octet 0) (fun one => chain (octet 1) fun two => chain (octet 2) fun three =>
    chain (octet 3) (done one two three)) s

/-! ## Readers of groups -/

theorem readSeparator_first {α : Type} (separator : Char) (inner : Reader α) (s : Text) :
    readSeparator separator 0 inner s = inner s := by
  cases s <;> rfl

/-- Without the separator at hand, only a first item is read. -/
theorem readSeparator_absent {α : Type} {separator : Char} {index : Nat} (later : index ≠ 0)
    (inner : Reader α) (absent : separator ∉ s) : readSeparator separator index inner s = none := by
  cases s with
  | nil => rw [readSeparator, if_neg later]
  | cons c cs =>
      have other : c ≠ separator := fun same => absent (same ▸ List.mem_cons_self)
      rw [readSeparator, if_neg later, if_neg other]

theorem stripPrefix_colons_absent (absent : ':' ∉ s) : stripPrefix [':', ':'] s = none := by
  rw [stripPrefix_eq_none]
  rintro ⟨rest, rfl⟩
  exact absent List.mem_cons_self

/-- A text without a colon that does not begin with an IPv4 address is no IPv6 address. -/
theorem readIpv6Addr_absent (absent : ':' ∉ s) (other : readIpv4Addr s = none) :
    readIpv6Addr s = none := by
  have later : ∀ rest : Text, ':' ∉ rest → readGroups 8 7 rest = ([], false, rest) := by
    intro rest missing
    simp [readGroups, readSeparator_absent, missing]
  have first : ∃ groups rest, readGroups 8 8 s = (groups, false, rest) ∧ groups.length ≤ 1 ∧
      ':' ∉ rest := by
    rw [readGroups]
    simp only [Nat.sub_self, readSeparator_first, other, ite_self]
    cases group : readGroup s with
    | none => exact ⟨[], s, rfl, Nat.zero_le 1, absent⟩
    | some read =>
        obtain ⟨value, rest⟩ := read
        have missing : ':' ∉ rest := by
          intro member
          have suffix : ∃ count, rest = s.drop count := by
            rw [readGroup, readNumber] at group
            split_ifs at group
            exact ⟨_, (Prod.mk.inj (Option.some.inj group)).2.symm⟩
          obtain ⟨count, rfl⟩ := suffix
          exact absent (List.mem_of_mem_drop member)
        simp only [later rest missing]
        exact ⟨[value], rest, rfl, Nat.le_refl 1, missing⟩
  obtain ⟨groups, rest, read, few, missing⟩ := first
  have not_all : groups.length ≠ 8 := by omega
  rw [readIpv6Addr, read]
  simp [not_all, stripPrefix_colons_absent missing]

/-! ## Literals -/

/-- Whether a text is read as an IPv4 address is decided before any IPv6 address is tried. -/
theorem parse_of_readIpv4Addr {bits : BitVec 32} {rest : Text}
    (read : readIpv4Addr s = some (bits, rest)) :
    parse s = if rest = [] then some (.v4 bits) else none := by
  rw [parse, read]
  rfl

theorem parse_of_not_readIpv4Addr (other : readIpv4Addr s = none) :
    parse s = (readIpv6Addr s).bind fun read =>
      if read.2 = [] then some (.v6 read.1) else none := by
  rw [parse, other]
  cases readIpv6Addr s <;> rfl

/-- What begins with an IPv4 address and a colon is no address. -/
theorem parse_ipv4_colon {front back : Text} {bits : BitVec 32} {rest : Text}
    (read : readIpv4Addr front = some (bits, rest)) : parse (front ++ ':' :: back) = none := by
  have extended := readIpv4Addr_stopsAt back front
  rw [read, Option.map_some] at extended
  rw [parse_of_readIpv4Addr extended, if_neg (by simp)]

/-- An IPv4 literal has no colon. -/
theorem colon_not_mem_of_v4 {bits : BitVec 32} (parsed : parse s = some (.v4 bits)) : ':' ∉ s := by
  intro member
  obtain ⟨front, back, rfl⟩ := List.append_of_mem member
  cases read : readIpv4Addr front with
  | some found =>
      rw [parse_ipv4_colon read] at parsed
      exact absurd parsed.symm (Option.some_ne_none _)
  | none =>
      have extended := readIpv4Addr_stopsAt back front
      rw [read, Option.map_none] at extended
      rw [parse_of_not_readIpv4Addr extended] at parsed
      obtain ⟨found, _, decided⟩ := Option.bind_eq_some_iff.mp parsed
      obtain ⟨_, same⟩ := Option.ite_none_right_eq_some.mp decided
      exact absurd (Option.some.inj same) (by simp)

/-- An IPv6 literal has a colon. -/
theorem colon_mem_of_v6 {bits : BitVec 128} (parsed : parse s = some (.v6 bits)) : ':' ∈ s := by
  by_contra absent
  cases read : readIpv4Addr s with
  | some found =>
      rw [parse_of_readIpv4Addr read] at parsed
      obtain ⟨_, same⟩ := Option.ite_none_right_eq_some.mp parsed
      exact absurd (Option.some.inj same) (by simp)
  | none =>
      rw [parse_of_not_readIpv4Addr read, readIpv6Addr_absent absent read] at parsed
      exact absurd parsed.symm (Option.some_ne_none _)

/-- What stands before the first colon of an IPv6 literal is no address. -/
theorem parse_front_of_v6 {front back : Text} {bits : BitVec 128} (first : ':' ∉ front)
    (parsed : parse (front ++ ':' :: back) = some (.v6 bits)) : parse front = none := by
  cases read : readIpv4Addr front with
  | some found =>
      rw [parse_ipv4_colon read] at parsed
      exact absurd parsed.symm (Option.some_ne_none _)
  | none => rw [parse_of_not_readIpv4Addr read, readIpv6Addr_absent first read, Option.bind_none]

/-- What begins with a bracket is no address. -/
theorem parse_bracket (rest : Text) : parse ('[' :: rest) = none := by
  have octets : readIpv4Addr ('[' :: rest) = none := rfl
  have groups : readIpv6Addr ('[' :: rest) = none := rfl
  rw [parse_of_not_readIpv4Addr octets, groups, Option.bind_none]

end IpAddr
end Foundation
