import AimailBridge.Foundation.IpLiteral

/-!
# Addresses as texts

Every address reads back from the text that it is displayed as.  The octets of an IPv4 address are
read up to the dots between them.  The groups of an IPv6 address are read up to the run of zeros
that was left out, or up to an embedded IPv4 address.
-/

namespace Foundation
namespace IpAddr

open Text

/-! ## Numbers -/

section Numbers

variable {radix n : Nat} {tail : Text}

theorem toDigit_digitChar {digit : Nat} (small : digit < radix) (radix_le : radix ≤ 16) :
    toDigit radix (Nat.digitChar digit) = some digit := by
  have table : ∀ digit < 16, toDigit 16 (Nat.digitChar digit) = some digit := by decide
  have found := table digit (by omega)
  rw [toDigit, Option.filter_eq_some_iff] at found ⊢
  exact ⟨found.1, by simpa using small⟩

/-- A number is written with digits of its radix. -/
theorem mem_toDigits (radix_gt : 1 < radix) {c : Char} (member : c ∈ Nat.toDigits radix n) :
    ∃ digit < radix, c = Nat.digitChar digit := by
  induction n using Nat.strongRecOn with
  | ind n induction =>
      rw [Nat.toDigits_eq_if radix_gt] at member
      split at member
      · next small => exact ⟨n, small, List.mem_singleton.mp member⟩
      · next large =>
          rcases List.mem_append.mp member with front | last
          · exact induction _ (Nat.div_lt_self (by omega) radix_gt) front
          · exact ⟨_, Nat.mod_lt n (by omega), List.mem_singleton.mp last⟩

/-- The digits of a number denote it. -/
theorem foldl_toDigits (radix_gt : 1 < radix) (radix_le : radix ≤ 16) (n : Nat) :
    (Nat.toDigits radix n).foldl
      (fun result c => result * radix + (toDigit radix c).getD 0) 0 = n := by
  induction n using Nat.strongRecOn with
  | ind n induction =>
      rw [Nat.toDigits_eq_if radix_gt]
      split
      · next small => simp [toDigit_digitChar small radix_le]
      · next large =>
          rw [List.foldl_append, induction _ (Nat.div_lt_self (by omega) radix_gt),
            List.foldl_cons, List.foldl_nil,
            toDigit_digitChar (Nat.mod_lt n (by omega)) radix_le, Option.getD_some]
          exact Nat.div_add_mod' n radix

/-- Only zero is written with a zero in front. -/
theorem head_toDigits (radix_gt : 1 < radix) (radix_le : radix ≤ 16) (positive : 0 < n) :
    (Nat.toDigits radix n).head? ≠ some '0' := by
  induction n using Nat.strongRecOn with
  | ind n induction =>
      rw [Nat.toDigits_eq_if radix_gt]
      split
      · next small =>
          have table : ∀ digit < 16, Nat.digitChar digit = '0' → digit = 0 := by decide
          intro zero
          have := table n (by omega) (Option.some.inj zero)
          omega
      · next large =>
          rw [List.head?_append_of_ne_nil _ Nat.toDigits_ne_nil]
          exact induction _ (Nat.div_lt_self positive radix_gt) (Nat.div_pos (by omega) (by omega))

/-- A number is read up to the first character that is no digit. -/
theorem readNumber_toDigits {size maxDigits : Nat} (allowZeroPrefix : Bool) (radix_gt : 1 < radix)
    (radix_le : radix ≤ 16) (fits : n < 2 ^ size) (digits_pos : 0 < maxDigits)
    (short : n < radix ^ maxDigits) (stops : ∀ c ∈ tail.head?, toDigit radix c = none) :
    readNumber size radix maxDigits allowZeroPrefix (Nat.toDigits radix n ++ tail) =
      some (BitVec.ofNat size n, tail) := by
  have digits : (Nat.toDigits radix n ++ tail).takeWhile (fun c => (toDigit radix c).isSome) =
      Nat.toDigits radix n := by
    rw [List.takeWhile_append_of_pos]
    · cases tail with
      | nil => simp
      | cons c tail => simp [stops c rfl]
    · intro c member
      obtain ⟨digit, small, rfl⟩ := mem_toDigits radix_gt member
      rw [toDigit_digitChar small radix_le, Option.isSome_some]
  have not_long : ¬ maxDigits < (Nat.toDigits radix n).length :=
    Nat.not_lt.mpr ((Nat.length_toDigits_le_iff radix_gt digits_pos).mpr short)
  have no_zeros : ¬ ((Nat.toDigits radix n).head? = some '0' ∧
      1 < (Nat.toDigits radix n).length) := by
    rintro ⟨zero, long⟩
    rcases Nat.eq_zero_or_pos n with rfl | positive
    · simp at long
    · exact head_toDigits radix_gt radix_le positive zero
  rw [readNumber]
  simp only [digits, foldl_toDigits radix_gt radix_le n, Nat.toDigits_ne_nil, not_long, false_or,
    if_false, fits, if_true, List.drop_left]
  exact if_neg fun zeros => no_zeros zeros.2

end Numbers

/-! ## IPv4 addresses -/

section Octets

variable {tail : Text}

/-- The text goes on with something that is no decimal digit. -/
def EndsNumber (radix : Nat) (tail : Text) : Prop :=
  ∀ c ∈ tail.head?, toDigit radix c = none

theorem readOctet_decimal (octet : BitVec 8) (ends : EndsNumber 10 tail) :
    readOctet (decimal octet.toNat ++ tail) = some (octet, tail) := by
  have small := octet.isLt
  have read := @readNumber_toDigits 10 octet.toNat tail 8 3 false (by omega) (by omega) small
    (by omega) (by omega) ends
  rwa [BitVec.ofNat_toNat, BitVec.setWidth_eq] at read

/-- The octets of an address spell it. -/
theorem octets_append (bits : BitVec 32) :
    bits.extractLsb' 24 8 ++ bits.extractLsb' 16 8 ++ bits.extractLsb' 8 8 ++
      bits.extractLsb' 0 8 = bits := by
  have upper : bits.extractLsb' 24 8 ++ bits.extractLsb' 16 8 = bits.extractLsb' 16 16 :=
    BitVec.extractLsb'_append_extractLsb'_eq_extractLsb' (by rfl)
  have middle : bits.extractLsb' 16 16 ++ bits.extractLsb' 8 8 = bits.extractLsb' 8 24 :=
    BitVec.extractLsb'_append_extractLsb'_eq_extractLsb' (by rfl)
  have lower : bits.extractLsb' 8 24 ++ bits.extractLsb' 0 8 = bits.extractLsb' 0 32 :=
    BitVec.extractLsb'_append_extractLsb'_eq_extractLsb' (by rfl)
  calc
    bits.extractLsb' 24 8 ++ bits.extractLsb' 16 8 ++ bits.extractLsb' 8 8 ++
        bits.extractLsb' 0 8 = bits.extractLsb' 0 32 := by
      rw [upper]
      exact (congrArg (· ++ bits.extractLsb' 0 8) middle).trans lower
    _ = bits := BitVec.extractLsb'_eq_self

theorem displayV4_eq (bits : BitVec 32) : displayV4 bits =
    decimal (bits.extractLsb' 24 8).toNat ++ '.' :: (decimal (bits.extractLsb' 16 8).toNat ++
      '.' :: (decimal (bits.extractLsb' 8 8).toNat ++
        '.' :: decimal (bits.extractLsb' 0 8).toNat)) := by
  simp [displayV4, List.intercalate]

theorem readSeparator_cons {α : Type} {separator : Char} {index : Nat} (later : index ≠ 0)
    (inner : Reader α) (s : Text) :
    readSeparator separator index inner (separator :: s) = inner s := by
  rw [readSeparator, if_neg later, if_pos rfl]

/-- An IPv4 address is read up to the end of its last octet. -/
theorem readIpv4Addr_displayV4 (bits : BitVec 32) (ends : EndsNumber 10 tail) :
    readIpv4Addr (displayV4 bits ++ tail) = some (bits, tail) := by
  have dot : ∀ rest : Text, EndsNumber 10 ('.' :: rest) := by
    rintro rest c ⟨⟩
    rfl
  rw [displayV4_eq, readIpv4Addr, readSeparator_first]
  simp only [List.append_assoc, List.cons_append, readOctet_decimal _ (dot _),
    readOctet_decimal _ ends, readSeparator_cons, ne_eq, one_ne_zero, not_false_eq_true,
    OfNat.ofNat_ne_zero, Option.bind_eq_bind, Option.bind_some, octets_append]
  rfl

end Octets

/-! ## Groups -/

section Groups

/-- A group is put below what has been shifted out of its way. -/
theorem shifted_group (bits : BitVec 128) (shift : Nat) :
    bits >>> (shift + 16) <<< 16 ||| (bits.extractLsb' shift 16).setWidth 128 =
      bits >>> shift := by
  ext i bound
  simp only [BitVec.getElem_or, BitVec.getElem_shiftLeft, BitVec.getElem_setWidth,
    BitVec.getLsbD_extractLsb', BitVec.getElem_ushiftRight]
  by_cases low : i < 16
  · simp [low]
  · simp [low]
    congr 1
    omega

/-- The groups of an address spell it. -/
theorem ofGroups_groupsOf (bits : BitVec 128) : ofGroups (groupsOf bits) = bits := by
  have first : (0 : BitVec 128) = bits >>> 128 := by
    ext i bound
    simp
  simp only [ofGroups, groupsOf, List.map_cons, List.map_nil, List.foldl_cons, List.foldl_nil]
  rw [first, shifted_group bits 112, shifted_group bits 96, shifted_group bits 80,
    shifted_group bits 64, shifted_group bits 48, shifted_group bits 32, shifted_group bits 16,
    shifted_group bits 0]
  exact BitVec.ushiftRight_zero bits

theorem extractLsb'_low (bits : BitVec 128) {shift : Nat} (low : shift + 16 ≤ 32) :
    (bits.extractLsb' 0 32).extractLsb' shift 16 = bits.extractLsb' shift 16 := by
  ext i bound
  simp
  omega

/-- The groups of a span are zeros. -/
def ZerosAt (groups : List (BitVec 16)) (span : Span) : Prop :=
  ∀ i, span.start ≤ i → i < span.start + span.length → groups[i]? = some 0

theorem ZerosAt.append {groups : List (BitVec 16)} {span : Span} (zeros : ZerosAt groups span)
    (more : List (BitVec 16)) : ZerosAt (groups ++ more) span := by
  intro i lower upper
  obtain ⟨inside, _⟩ := List.getElem?_eq_some_iff.mp (zeros i lower upper)
  rw [List.getElem?_append_left inside]
  exact zeros i lower upper

theorem zerosAt_empty (groups : List (BitVec 16)) (start : Nat) : ZerosAt groups ⟨start, 0⟩ := by
  intro i lower upper
  simp only at lower upper
  omega

/-- One step of the search for the longest run: the index, the run that is going on, and the longest
one so far. -/
def searchZeros : Nat × Span × Span → BitVec 16 → Nat × Span × Span :=
  fun (index, current, longest) group =>
    if group = 0 then
      let current : Span :=
        ⟨if current.length = 0 then index else current.start, current.length + 1⟩
      (index + 1, current, if longest.length < current.length then current else longest)
    else
      (index + 1, ⟨0, 0⟩, longest)

theorem longestZeros_eq (groups : List (BitVec 16)) :
    longestZeros groups = (groups.foldl searchZeros (0, ⟨0, 0⟩, ⟨0, 0⟩)).2.2 :=
  rfl

/-- What the search knows after some groups. -/
structure Searched (groups : List (BitVec 16)) (state : Nat × Span × Span) : Prop where
  /-- The index is their number. -/
  index : state.1 = groups.length
  /-- The run that is going on is one of zeros. -/
  current : ZerosAt groups state.2.1
  /-- It goes up to the end. -/
  ongoing : 0 < state.2.1.length → state.2.1.start + state.2.1.length = groups.length
  /-- The longest run is one of zeros. -/
  longest : ZerosAt groups state.2.2

/-- Another zero continues the run, or begins one. -/
theorem zerosAt_continued {groups : List (BitVec 16)} {run : Span} (zeros : ZerosAt groups run)
    (ongoing : run.start + run.length = groups.length) :
    ZerosAt (groups ++ [0]) ⟨run.start, run.length + 1⟩ := by
  intro i lower upper
  simp only at lower upper
  rcases Nat.lt_or_ge i groups.length with inside | last
  · exact zeros.append [0] i lower (by omega)
  · have same : i = groups.length := by omega
    rw [same, List.getElem?_append_right (Nat.le_refl _), Nat.sub_self]
    rfl

theorem Searched.step {groups : List (BitVec 16)} {state : Nat × Span × Span}
    (searched : Searched groups state) (group : BitVec 16) :
    Searched (groups ++ [group]) (searchZeros state group) := by
  obtain ⟨index, current, longest⟩ := state
  have counted : index = groups.length := searched.index
  have length : groups.length + 1 = (groups ++ [group]).length := by simp
  by_cases zero : group = 0
  · obtain ⟨start, continued, ends⟩ : ∃ start,
        ZerosAt (groups ++ [group]) ⟨start, current.length + 1⟩ ∧
        start + current.length = groups.length ∧
        start = if current.length = 0 then index else current.start := by
      refine ⟨_, ?_, ?_, rfl⟩
      · rw [zero]
        split
        · next fresh =>
            rw [fresh, counted]
            exact zerosAt_continued (zerosAt_empty groups groups.length) rfl
        · next old =>
            exact zerosAt_continued searched.current (searched.ongoing (Nat.pos_of_ne_zero old))
      · split
        · omega
        · next old => exact searched.ongoing (Nat.pos_of_ne_zero old)
    have step : searchZeros (index, current, longest) group =
        (index + 1, ⟨start, current.length + 1⟩,
          if longest.length < current.length + 1 then ⟨start, current.length + 1⟩
          else longest) := by
      rw [searchZeros, ends.2]
      exact if_pos zero
    rw [step]
    refine ⟨by rw [← length, counted], continued, fun _ => ?_, ?_⟩
    · rw [← length, ← ends.1]
      exact (Nat.add_assoc start current.length 1).symm
    · dsimp only
      split
      · exact continued
      · exact searched.longest.append [group]
  · have step : searchZeros (index, current, longest) group = (index + 1, ⟨0, 0⟩, longest) :=
      if_neg zero
    rw [step]
    exact ⟨by rw [← length, counted], zerosAt_empty _ 0,
      fun positive => absurd positive (Nat.lt_irrefl 0), searched.longest.append [group]⟩

/-- The run that is left out is one of zeros. -/
theorem zerosAt_longestZeros (groups : List (BitVec 16)) :
    ZerosAt groups (longestZeros groups) := by
  have searched : ∀ rest before state, Searched before state →
      Searched (before ++ rest) (rest.foldl searchZeros state) := by
    intro rest
    induction rest with
    | nil =>
        intro before state known
        rwa [List.append_nil]
    | cons group rest induction =>
        intro before state known
        rw [List.foldl_cons, List.append_cons]
        exact induction _ _ (known.step group)
  have start : Searched [] (0, ⟨0, 0⟩, ⟨0, 0⟩) :=
    ⟨rfl, zerosAt_empty [] 0, fun positive => absurd positive (Nat.lt_irrefl 0),
      zerosAt_empty [] 0⟩
  rw [longestZeros_eq]
  exact (searched groups [] _ start).longest

/-- Around a run of zeros, groups are what comes before it, the zeros and what comes after it. -/
theorem ZerosAt.eq {groups : List (BitVec 16)} {span : Span} (zeros : ZerosAt groups span)
    (positive : 0 < span.length) :
    span.start + span.length ≤ groups.length ∧
      groups.take span.start ++ List.replicate span.length 0 ++
        groups.drop (span.start + span.length) = groups := by
  obtain ⟨inside, _⟩ := List.getElem?_eq_some_iff.mp
    (zeros (span.start + span.length - 1) (by omega) (by omega))
  have bound : span.start + span.length ≤ groups.length := by omega
  have run : (groups.drop span.start).take span.length = List.replicate span.length 0 := by
    rw [List.eq_replicate_iff]
    refine ⟨by rw [List.length_take, List.length_drop]; omega, fun group member => ?_⟩
    obtain ⟨i, lower, same⟩ := List.getElem_of_mem member
    rw [List.length_take, List.length_drop] at lower
    rw [List.getElem_take, List.getElem_drop] at same
    have zero := zeros (span.start + i) (by omega) (by omega)
    rw [List.getElem?_eq_getElem (by omega), same] at zero
    exact Option.some.inj zero
  refine ⟨bound, ?_⟩
  rw [← run, ← List.drop_drop, List.append_assoc, List.take_append_drop, List.take_append_drop]

end Groups

/-! ## IPv6 addresses -/

section Reading

variable {s tail : Text} {limit count index : Nat}

theorem readNumber_rest {size radix maxDigits : Nat} {allowZeroPrefix : Bool}
    {value : BitVec size} {rest : Text}
    (read : readNumber size radix maxDigits allowZeroPrefix s = some (value, rest)) :
    ∃ count, rest = s.drop count := by
  rw [readNumber] at read
  split_ifs at read
  exact ⟨_, (Prod.mk.inj (Option.some.inj read)).2.symm⟩

/-- A text without a dot does not begin with an IPv4 address. -/
theorem readIpv4Addr_undotted (undotted : '.' ∉ s) : readIpv4Addr s = none := by
  rw [readIpv4Addr, readSeparator_first]
  cases octet : readOctet s with
  | none => rfl
  | some read =>
      obtain ⟨value, rest⟩ := read
      obtain ⟨count, rfl⟩ := readNumber_rest octet
      have second : readSeparator '.' 1 readOctet (s.drop count) = none :=
        readSeparator_absent one_ne_zero readOctet fun member =>
          undotted (List.mem_of_mem_drop member)
      simp [second]

theorem readSeparator_undotted (undotted : '.' ∉ s) :
    readSeparator ':' index readIpv4Addr s = none := by
  have nothing : readIpv4Addr [] = none := rfl
  cases s with
  | nil => simp [readSeparator, nothing]
  | cons c s =>
      have rest : '.' ∉ s := fun member => undotted (List.mem_cons_of_mem c member)
      simp [readSeparator, readIpv4Addr_undotted undotted, readIpv4Addr_undotted rest]

/-- A group in hexadecimal. -/
def hexadecimal (group : BitVec 16) : Text :=
  Nat.toDigits 16 group.toNat

/-- Groups behind others. -/
def trailing (groups : List (BitVec 16)) : Text :=
  groups.flatMap fun group => ':' :: hexadecimal group

theorem displayGroups_cons (group : BitVec 16) (groups : List (BitVec 16)) :
    displayGroups (group :: groups) = hexadecimal group ++ trailing groups := by
  induction groups generalizing group with
  | nil => simp [displayGroups, trailing, hexadecimal, List.intercalate]
  | cons next groups induction =>
      have later := induction next
      simp only [displayGroups, List.map_cons, trailing, hexadecimal, List.intercalate,
        List.flatMap_cons] at later ⊢
      rw [List.intersperse_cons_cons, List.flatten_cons, List.flatten_cons, later]
      simp

theorem dot_not_mem_hexadecimal (group : BitVec 16) : '.' ∉ hexadecimal group := by
  intro member
  obtain ⟨digit, small, same⟩ := mem_toDigits (by omega) member
  have table : ∀ digit < 16, '.' ≠ Nat.digitChar digit := by decide
  exact table digit small same

theorem dot_not_mem_trailing (groups : List (BitVec 16)) : '.' ∉ trailing groups := by
  intro member
  obtain ⟨group, _, inside⟩ := List.mem_flatMap.mp member
  rcases List.mem_cons.mp inside with colon | digit
  · exact absurd colon (by decide)
  · exact dot_not_mem_hexadecimal group digit

theorem dot_not_mem_displayGroups (groups : List (BitVec 16)) : '.' ∉ displayGroups groups := by
  cases groups with
  | nil => exact List.not_mem_nil
  | cons group groups =>
      rw [displayGroups_cons, List.mem_append, not_or]
      exact ⟨dot_not_mem_hexadecimal group, dot_not_mem_trailing groups⟩

theorem readGroup_hexadecimal (group : BitVec 16) (ends : EndsNumber 16 tail) :
    readGroup (hexadecimal group ++ tail) = some (group, tail) := by
  have small := group.isLt
  have read := @readNumber_toDigits 16 group.toNat tail 16 4 true (by omega) (by omega) small
    (by omega) (by omega) ends
  rwa [BitVec.ofNat_toNat, BitVec.setWidth_eq] at read

/-- No group follows: the text is over, or some groups have been left out. -/
def EndsGroups (tail : Text) : Prop :=
  tail = [] ∨ ∃ more, tail = ':' :: ':' :: more

theorem EndsGroups.endsNumber (ends : EndsGroups tail) : EndsNumber 16 tail := by
  rcases ends with rfl | ⟨more, rfl⟩
  · rintro c ⟨⟩
  · rintro c ⟨⟩
    rfl

theorem EndsGroups.readGroup (ends : EndsGroups tail) :
    readSeparator ':' index IpAddr.readGroup tail = none := by
  have nothing : IpAddr.readGroup [] = none := rfl
  have colon : ∀ rest : Text, IpAddr.readGroup (':' :: rest) = none := fun _ => rfl
  rcases ends with rfl | ⟨more, rfl⟩ <;> simp [readSeparator, nothing, colon]

theorem endsNumber_trailing (groups : List (BitVec 16)) (ends : EndsGroups tail) :
    EndsNumber 16 (trailing groups ++ tail) := by
  cases groups with
  | nil => exact ends.endsNumber
  | cons group groups =>
      rintro c ⟨⟩
      rfl

/-- Where no IPv4 address is embedded, groups are read up to the first that is missing. -/
theorem readGroups_stop (undotted : '.' ∉ s)
    (read : readSeparator ':' (limit - (count + 1)) readGroup s = none) :
    readGroups limit (count + 1) s = ([], false, s) := by
  rw [readGroups]
  simp only [readSeparator_undotted undotted, ite_self, read]

/-- Where no IPv4 address is embedded, one group is read after the other. -/
theorem readGroups_next {group : BitVec 16} {rest : Text} (undotted : '.' ∉ s)
    (read : readSeparator ':' (limit - (count + 1)) readGroup s = some (group, rest)) :
    readGroups limit (count + 1) s =
      (group :: (readGroups limit count rest).1, (readGroups limit count rest).2) := by
  rw [readGroups]
  simp only [readSeparator_undotted undotted, ite_self, read]

/-- Groups behind others are read up to their end. -/
theorem readGroups_trailing {groups : List (BitVec 16)} (room : groups.length ≤ count)
    (later : count < limit) (ends : EndsGroups tail) (undotted : '.' ∉ tail) :
    readGroups limit count (trailing groups ++ tail) = (groups, false, tail) := by
  induction groups generalizing count with
  | nil =>
      cases count with
      | zero => rfl
      | succ count =>
          rw [trailing, List.flatMap_nil, List.nil_append]
          exact readGroups_stop undotted ends.readGroup
  | cons group groups induction =>
      obtain ⟨count, rfl⟩ := Nat.exists_eq_add_one_of_ne_zero
        (Nat.ne_of_gt (Nat.lt_of_lt_of_le (Nat.succ_pos groups.length) room))
      have all_undotted : '.' ∉ trailing (group :: groups) ++ tail := by
        rw [List.mem_append, not_or]
        exact ⟨dot_not_mem_trailing _, undotted⟩
      have read : readSeparator ':' (limit - (count + 1)) readGroup
          (trailing (group :: groups) ++ tail) = some (group, trailing groups ++ tail) := by
        rw [trailing, List.flatMap_cons, List.cons_append, List.cons_append,
          readSeparator_cons (by omega), List.append_assoc, ← trailing,
          readGroup_hexadecimal group (endsNumber_trailing groups ends)]
      rw [readGroups_next all_undotted read,
        induction (Nat.le_of_succ_le_succ room) (by omega)]

/-- Groups at the front are read up to their end. -/
theorem readGroups_displayGroups {groups : List (BitVec 16)} (room : groups.length ≤ limit)
    (ends : EndsGroups tail) (undotted : '.' ∉ tail) :
    readGroups limit limit (displayGroups groups ++ tail) = (groups, false, tail) := by
  cases limit with
  | zero =>
      obtain rfl := List.length_eq_zero_iff.mp (Nat.le_zero.mp room)
      rfl
  | succ limit =>
      cases groups with
      | nil =>
          have nothing : displayGroups [] ++ tail = tail := rfl
          rw [nothing]
          exact readGroups_stop undotted ends.readGroup
      | cons group groups =>
          have all_undotted : '.' ∉ displayGroups (group :: groups) ++ tail := by
            rw [List.mem_append, not_or]
            exact ⟨dot_not_mem_displayGroups _, undotted⟩
          have read : readSeparator ':' (limit + 1 - (limit + 1)) readGroup
              (displayGroups (group :: groups) ++ tail) =
                some (group, trailing groups ++ tail) := by
            rw [Nat.sub_self, readSeparator_first, displayGroups_cons, List.append_assoc,
              readGroup_hexadecimal group (endsNumber_trailing groups ends)]
          rw [readGroups_next all_undotted read, readGroups_trailing
            (Nat.le_of_succ_le_succ room) (Nat.lt_succ_self limit) ends undotted]

end Reading

section Addresses

variable {groups : List (BitVec 16)}

/-- Groups without a run of zeros left out are read as they are. -/
theorem readIpv6Addr_displayGroups (all : groups.length = 8) :
    readIpv6Addr (displayGroups groups) = some (ofGroups groups, []) := by
  have read := @readGroups_displayGroups [] 8 groups (Nat.le_of_eq all) (Or.inl rfl)
    List.not_mem_nil
  rw [List.append_nil] at read
  rw [readIpv6Addr, read]
  exact if_pos all

/-- Behind the run of zeros, the rest of the groups is read. -/
theorem readIpv6Addr_split {s rest after final : Text} {front back : List (BitVec 16)}
    {embedded : Bool} (head : readGroups 8 8 s = (front, false, rest)) (room : front.length ≠ 8)
    (stripped : stripPrefix [':', ':'] rest = some after)
    (tail : readGroups (8 - (front.length + 1)) (8 - (front.length + 1)) after =
      (back, embedded, final)) :
    readIpv6Addr s = some (ofGroups
      (front ++ List.replicate (8 - front.length - back.length) 0 ++ back), final) := by
  rw [readIpv6Addr, head]
  simp only [room, if_false, Bool.false_eq_true, stripped, Option.map_some, tail]

/-- Groups on both sides of zeros are read with the zeros between them. -/
theorem readIpv6Addr_zeros {front back : List (BitVec 16)} (room : front.length + back.length < 8) :
    readIpv6Addr (displayGroups front ++ "::".toList ++ displayGroups back) =
      some (ofGroups (front ++ List.replicate (8 - front.length - back.length) 0 ++ back), []) := by
  have undotted : '.' ∉ "::".toList ++ displayGroups back := by
    rw [List.mem_append, not_or]
    exact ⟨by decide, dot_not_mem_displayGroups back⟩
  have head := @readGroups_displayGroups ("::".toList ++ displayGroups back) 8 front (by omega)
    (Or.inr ⟨_, rfl⟩) undotted
  have tail := @readGroups_displayGroups [] (8 - (front.length + 1)) back (by omega) (Or.inl rfl)
    List.not_mem_nil
  rw [List.append_nil] at tail
  rw [List.append_assoc]
  exact readIpv6Addr_split head (by omega) (stripPrefix_append _ _) tail

/-- An IPv4 address is read as the last two groups. -/
theorem readIpv6Addr_mapped (bits : BitVec 32) :
    readIpv6Addr ("::ffff:".toList ++ displayV4 bits) =
      some (ofGroups [0, 0, 0, 0, 0, 0xFFFF, bits.extractLsb' 16 16, bits.extractLsb' 0 16],
        []) := by
  have front : readGroups 8 8 ("::ffff:".toList ++ displayV4 bits) =
      ([], false, "::ffff:".toList ++ displayV4 bits) := rfl
  have no_address : readIpv4Addr ("ffff".toList ++ ':' :: displayV4 bits) = none := rfl
  have group : readGroup ("ffff".toList ++ ':' :: displayV4 bits) =
      some (0xFFFF, ':' :: displayV4 bits) := by
    have colon : EndsNumber 16 (':' :: displayV4 bits) := by
      rintro c ⟨⟩
      rfl
    exact readGroup_hexadecimal 0xFFFF colon
  have octets : readIpv4Addr (displayV4 bits) = some (bits, []) := by
    have read := @readIpv4Addr_displayV4 [] bits (by rintro c ⟨⟩)
    rwa [List.append_nil] at read
  have back : readGroups 7 7 ("ffff".toList ++ ':' :: displayV4 bits) =
      ([0xFFFF, bits.extractLsb' 16 16, bits.extractLsb' 0 16], true, []) := by
    rw [readGroups]
    simp only [Nat.sub_self, readSeparator_first, no_address, ite_self, group]
    rw [readGroups]
    simp [readSeparator_cons, octets]
  exact readIpv6Addr_split front (by decide) (stripPrefix_append [':', ':'] _) back

/-- Every IPv6 address reads back from its text. -/
theorem readIpv6Addr_displayV6 (bits : BitVec 128) :
    readIpv6Addr (displayV6 bits) = some (bits, []) := by
  have length : (groupsOf bits).length = 8 := rfl
  rw [displayV6]
  split
  · next mapped =>
      have groups : groupsOf bits = [0, 0, 0, 0, 0, 0xFFFF, bits.extractLsb' 16 16,
          bits.extractLsb' 0 16] := by
        rw [← List.take_append_drop 6 (groupsOf bits), mapped]
        rfl
      rw [readIpv6Addr_mapped, extractLsb'_low bits (by omega), extractLsb'_low bits (by omega),
        ← groups, ofGroups_groupsOf]
  · split
    · next several =>
        obtain ⟨bound, whole⟩ := (zerosAt_longestZeros (groupsOf bits)).eq (by omega)
        have front : ((groupsOf bits).take (longestZeros (groupsOf bits)).start).length =
            (longestZeros (groupsOf bits)).start := by
          rw [List.length_take]
          omega
        have back : ((groupsOf bits).drop ((longestZeros (groupsOf bits)).start +
            (longestZeros (groupsOf bits)).length)).length =
            8 - ((longestZeros (groupsOf bits)).start +
              (longestZeros (groupsOf bits)).length) := by
          rw [List.length_drop, length]
        have missing : 8 - (longestZeros (groupsOf bits)).start -
            (8 - ((longestZeros (groupsOf bits)).start +
              (longestZeros (groupsOf bits)).length)) =
            (longestZeros (groupsOf bits)).length := by omega
        rw [readIpv6Addr_zeros (by omega), front, back, missing, whole, ofGroups_groupsOf]
    · rw [readIpv6Addr_displayGroups length, ofGroups_groupsOf]

/-- An IPv6 address is not read as an IPv4 address. -/
theorem readIpv4Addr_displayV6 (bits : BitVec 128) : readIpv4Addr (displayV6 bits) = none := by
  rw [displayV6]
  split
  · rfl
  · split
    · refine readIpv4Addr_undotted ?_
      rw [List.mem_append, List.mem_append, not_or, not_or]
      exact ⟨⟨dot_not_mem_displayGroups _, by decide⟩, dot_not_mem_displayGroups _⟩
    · exact readIpv4Addr_undotted (dot_not_mem_displayGroups _)

/-- Every address reads back from its text. -/
theorem parse_display (ip : IpAddr) : parse (display ip) = some ip := by
  cases ip with
  | v4 bits =>
      have read := @readIpv4Addr_displayV4 [] bits (by rintro c ⟨⟩)
      rw [List.append_nil] at read
      rw [display, parse_of_readIpv4Addr read, if_pos rfl]
  | v6 bits =>
      rw [display, parse_of_not_readIpv4Addr (readIpv4Addr_displayV6 bits),
        readIpv6Addr_displayV6 bits, Option.bind_some, if_pos rfl]

/-- The text of an address consists of digits, dots and colons. -/
theorem mem_display {ip : IpAddr} {c : Char} (member : c ∈ display ip) :
    c = '.' ∨ c = ':' ∨ ∃ digit < 16, c = Nat.digitChar digit := by
  have digits : ∀ {radix n : Nat}, 1 < radix → radix ≤ 16 → c ∈ Nat.toDigits radix n →
      ∃ digit < 16, c = Nat.digitChar digit := by
    intro radix n radix_gt radix_le inside
    obtain ⟨digit, small, same⟩ := mem_toDigits radix_gt inside
    exact ⟨digit, by omega, same⟩
  have octets : ∀ bits, c ∈ displayV4 bits → c = '.' ∨ ∃ digit < 16, c = Nat.digitChar digit := by
    intro bits inside
    have decimals : ∀ n, c ∈ decimal n → ∃ digit < 16, c = Nat.digitChar digit :=
      fun n => digits (by omega) (by omega)
    simp only [displayV4_eq, List.mem_append, List.mem_cons] at inside
    rcases inside with one | dot | two | dot | three | dot | four
    · exact Or.inr (decimals _ one)
    · exact Or.inl dot
    · exact Or.inr (decimals _ two)
    · exact Or.inl dot
    · exact Or.inr (decimals _ three)
    · exact Or.inl dot
    · exact Or.inr (decimals _ four)
  have groups : ∀ groups, c ∈ displayGroups groups →
      c = ':' ∨ ∃ digit < 16, c = Nat.digitChar digit := by
    intro groups inside
    cases groups with
    | nil => exact absurd inside List.not_mem_nil
    | cons group groups =>
        rw [displayGroups_cons, List.mem_append, trailing, List.mem_flatMap] at inside
        rcases inside with first | ⟨other, _, later⟩
        · exact Or.inr (digits (by omega) (by omega) first)
        · rcases List.mem_cons.mp later with colon | digit
          · exact Or.inl colon
          · exact Or.inr (digits (by omega) (by omega) digit)
  cases ip with
  | v4 bits => exact (octets bits member).imp_right Or.inr
  | v6 bits =>
      rw [display, displayV6] at member
      split at member
      · rcases List.mem_append.mp member with mapped | inside
        · have parts : c = ':' ∨ c = 'f' ∨ c = ':' := by simpa using mapped
          rcases parts with colon | digit | colon
          · exact Or.inr (Or.inl colon)
          · exact Or.inr (Or.inr ⟨15, by omega, digit⟩)
          · exact Or.inr (Or.inl colon)
        · exact (octets _ inside).imp_right Or.inr
      · split at member
        · rw [List.mem_append, List.mem_append] at member
          rcases member with (front | colons) | back
          · exact Or.inr (groups _ front)
          · have colon : c = ':' := by simpa using colons
            exact Or.inr (Or.inl colon)
          · exact Or.inr (groups _ back)
        · exact Or.inr (groups _ member)

/-- Other characters do not occur in the text of an address. -/
theorem not_mem_display {c : Char} (not_dot : c ≠ '.') (not_colon : c ≠ ':')
    (no_digit : ∀ digit < 16, c ≠ Nat.digitChar digit) (ip : IpAddr) : c ∉ display ip := by
  intro member
  rcases mem_display member with dot | colon | ⟨digit, small, same⟩
  · exact not_dot dot
  · exact not_colon colon
  · exact no_digit digit small same

end Addresses

end IpAddr
end Foundation
