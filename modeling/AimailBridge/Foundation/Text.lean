import Mathlib

/-!
# Text as lists of characters

The string operations of Rust's standard library that a configuration parser uses, on lists of
Unicode scalar values: prefixes, first and last separators, trimming, and unsigned decimal numbers.
Each operation comes with the equation that says where the parts of its result sit in the input.
-/

namespace Foundation

/-- A Rust string, as the list of its Unicode scalar values. -/
abbrev Text := List Char

namespace Text

/-! ## Prefixes -/

/-- `str::strip_prefix`. -/
def stripPrefix (pattern s : Text) : Option Text :=
  s.dropPrefix? pattern

theorem stripPrefix_eq_some {pattern s rest : Text} :
    stripPrefix pattern s = some rest ↔ s = pattern ++ rest := by
  rw [stripPrefix, List.dropPrefix?_eq_some_iff]
  constructor
  · rintro ⟨front, rfl, front_eq⟩
    rw [eq_of_beq front_eq]
  · rintro rfl
    exact ⟨pattern, rfl, beq_self_eq_true pattern⟩

@[simp]
theorem stripPrefix_append (pattern rest : Text) :
    stripPrefix pattern (pattern ++ rest) = some rest :=
  stripPrefix_eq_some.mpr rfl

theorem stripPrefix_eq_none {pattern s : Text} :
    stripPrefix pattern s = none ↔ ¬ pattern <+: s := by
  constructor
  · rintro missing ⟨rest, rfl⟩
    simp at missing
  · intro missing
    cases found : stripPrefix pattern s with
    | none => rfl
    | some rest => exact absurd ⟨rest, (stripPrefix_eq_some.mp found).symm⟩ missing

/-! ## Separators -/

/-- `str::split_once` with a string separator: split around its first occurrence. -/
def splitOnce (separator : Text) : Text → Option (Text × Text)
  | [] => (stripPrefix separator []).map fun back => ([], back)
  | c :: cs =>
      match stripPrefix separator (c :: cs) with
      | some back => some ([], back)
      | none => (splitOnce separator cs).map fun (front, back) => (c :: front, back)

theorem splitOnce_eq_some_append {separator s front back : Text}
    (split : splitOnce separator s = some (front, back)) : s = front ++ separator ++ back := by
  induction s generalizing front with
  | nil =>
      simp only [splitOnce, Option.map_eq_some_iff, Prod.mk.injEq] at split
      obtain ⟨rest, stripped, rfl, rfl⟩ := split
      exact stripPrefix_eq_some.mp stripped
  | cons c cs induction =>
      rw [splitOnce] at split
      split at split
      · next stripped =>
          obtain ⟨rfl, rfl⟩ := Prod.mk.inj (Option.some.inj split)
          exact stripPrefix_eq_some.mp stripped
      · simp only [Option.map_eq_some_iff, Prod.mk.injEq, Prod.exists] at split
        obtain ⟨front', back', found, rfl, rfl⟩ := split
        rw [induction found]
        simp

/-- The front part of a split holds no earlier occurrence of the separator. -/
theorem splitOnce_front {separator s front back : Text} (separator_ne : separator ≠ [])
    (split : splitOnce separator s = some (front, back)) : ¬ separator <:+: front := by
  induction s generalizing front with
  | nil =>
      simp only [splitOnce, Option.map_eq_some_iff, Prod.mk.injEq] at split
      obtain ⟨_, _, rfl, _⟩ := split
      simpa using separator_ne
  | cons c cs induction =>
      rw [splitOnce] at split
      split at split
      · obtain ⟨rfl, _⟩ := Prod.mk.inj (Option.some.inj split)
        simpa using separator_ne
      · next missing =>
          simp only [Option.map_eq_some_iff, Prod.mk.injEq, Prod.exists] at split
          obtain ⟨front', back', found, rfl, rfl⟩ := split
          rw [List.infix_cons_iff, not_or]
          refine ⟨fun early => stripPrefix_eq_none.mp missing ?_, induction found⟩
          rw [splitOnce_eq_some_append found]
          exact early.trans ⟨separator ++ back', by simp⟩

/-- A two-character separator is found at its first occurrence: an occurrence that starts in
the front part and ends in the separator itself would need its two characters to be equal. -/
theorem splitOnce_pair {first second : Char} (distinct : first ≠ second) {front back : Text}
    (absent : ¬ [first, second] <:+: front) :
    splitOnce [first, second] (front ++ [first, second] ++ back) = some (front, back) := by
  induction front with
  | nil => simp [splitOnce, stripPrefix, List.dropPrefix?]
  | cons c cs induction =>
      rw [List.infix_cons_iff, not_or] at absent
      have missing : stripPrefix [first, second] (c :: (cs ++ [first, second] ++ back)) = none := by
        rw [stripPrefix_eq_none]
        rintro ⟨rest, rest_eq⟩
        simp only [List.cons_append, List.nil_append, List.cons.injEq] at rest_eq
        obtain ⟨rfl, tail_eq⟩ := rest_eq
        cases cs with
        | nil => exact distinct (by simpa using (List.cons.inj tail_eq).1.symm)
        | cons d ds =>
            simp only [List.cons_append, List.cons.injEq] at tail_eq
            exact absent.1 ⟨ds, by simp [tail_eq.1]⟩
      rw [List.cons_append, List.cons_append, splitOnce, missing, induction absent.2]
      rfl

/-- A single character is found where it first occurs. -/
theorem splitOnce_singleton {separator : Char} {front : Text} (absent : separator ∉ front)
    (back : Text) : splitOnce [separator] (front ++ separator :: back) = some (front, back) := by
  induction front with
  | nil => simp [splitOnce, stripPrefix, List.dropPrefix?]
  | cons c cs induction =>
      rw [List.mem_cons, not_or] at absent
      have missing : stripPrefix [separator] (c :: (cs ++ separator :: back)) = none := by
        rw [stripPrefix_eq_none]
        rintro ⟨rest, rest_eq⟩
        exact absent.1 (List.cons.inj rest_eq).1
      rw [List.cons_append, splitOnce, missing, induction absent.2]
      rfl

/-- `str::rsplit_once` with a character separator: split around its last occurrence. -/
def rsplitOnce (separator : Char) : Text → Option (Text × Text)
  | [] => none
  | c :: cs =>
      match rsplitOnce separator cs with
      | some (front, back) => some (c :: front, back)
      | none => if c = separator then some ([], cs) else none

@[simp]
theorem rsplitOnce_eq_none {separator : Char} {s : Text} :
    rsplitOnce separator s = none ↔ separator ∉ s := by
  induction s with
  | nil => simp [rsplitOnce]
  | cons c cs induction =>
      rw [rsplitOnce]
      cases found : rsplitOnce separator cs with
      | some parts =>
          have member : separator ∈ cs := by
            by_contra absent
            simp [induction.mpr absent] at found
          simp [member]
      | none => simp [induction.mp found, eq_comm]

theorem rsplitOnce_append {separator : Char} {back : Text} (absent : separator ∉ back)
    (front : Text) : rsplitOnce separator (front ++ separator :: back) = some (front, back) := by
  induction front with
  | nil => simp [rsplitOnce, rsplitOnce_eq_none.mpr absent]
  | cons c cs induction => simp [rsplitOnce, induction]

theorem rsplitOnce_eq_some {separator : Char} {s front back : Text} :
    rsplitOnce separator s = some (front, back) ↔
      s = front ++ separator :: back ∧ separator ∉ back := by
  constructor
  · intro split
    induction s generalizing front with
    | nil => simp [rsplitOnce] at split
    | cons c cs induction =>
        rw [rsplitOnce] at split
        cases found : rsplitOnce separator cs with
        | some parts =>
            obtain ⟨front', back'⟩ := parts
            simp only [found, Option.some.injEq, Prod.mk.injEq] at split
            obtain ⟨rfl, rfl⟩ := split
            obtain ⟨rfl, absent⟩ := induction found
            exact ⟨rfl, absent⟩
        | none =>
            simp only [found, Option.ite_none_right_eq_some, Option.some.injEq,
              Prod.mk.injEq] at split
            obtain ⟨rfl, rfl, rfl⟩ := split
            exact ⟨rfl, rsplitOnce_eq_none.mp found⟩
  · rintro ⟨rfl, absent⟩
    exact rsplitOnce_append absent front

/-- The part of `s` before the first `separator`, and the part from it on. -/
def breakAt (separator : Char) (s : Text) : Text × Text :=
  (s.takeWhile (· != separator), s.dropWhile (· != separator))

@[simp]
theorem breakAt_append (separator : Char) (s : Text) :
    (breakAt separator s).1 ++ (breakAt separator s).2 = s :=
  List.takeWhile_append_dropWhile

theorem breakAt_front (separator : Char) (s : Text) : separator ∉ (breakAt separator s).1 := by
  intro member
  simpa using List.mem_takeWhile_imp member

theorem breakAt_back (separator : Char) (s : Text) :
    (breakAt separator s).2 = [] ∨ ∃ rest, (breakAt separator s).2 = separator :: rest := by
  induction s with
  | nil => simp [breakAt]
  | cons c cs induction =>
      by_cases same : c = separator
      · exact Or.inr ⟨cs, by simp [breakAt, same]⟩
      · simpa [breakAt, same] using induction

/-- A text is broken in front of a part that begins with the first separator. -/
theorem breakAt_of_not_mem {separator : Char} {front back : Text} (absent : separator ∉ front)
    (first : ∀ c ∈ back.head?, c = separator) :
    breakAt separator (front ++ back) = (front, back) := by
  have kept : ∀ c ∈ front, (c != separator) = true := by
    intro c member
    rw [bne_iff_ne]
    rintro rfl
    exact absent member
  have stops : back.takeWhile (· != separator) = [] ∧ back.dropWhile (· != separator) = back := by
    cases back with
    | nil => exact ⟨rfl, rfl⟩
    | cons c cs =>
        obtain rfl := first c rfl
        simp
  rw [breakAt, List.takeWhile_append_of_pos kept, List.dropWhile_append_of_pos kept, stops.1,
    stops.2, List.append_nil]

/-! ## Trimming -/

/-- `char::is_whitespace`: the Unicode property `White_Space`. -/
def isWhitespace (c : Char) : Bool :=
  (0x9 ≤ c.toNat && c.toNat ≤ 0xD) || c.toNat == 0x20 || c.toNat == 0x85 || c.toNat == 0xA0 ||
    c.toNat == 0x1680 || (0x2000 ≤ c.toNat && c.toNat ≤ 0x200A) || c.toNat == 0x2028 ||
    c.toNat == 0x2029 || c.toNat == 0x202F || c.toNat == 0x205F || c.toNat == 0x3000

/-- `str::trim`. -/
def trim (s : Text) : Text :=
  (s.dropWhile isWhitespace).rdropWhile isWhitespace

/-- `str::trim_end_matches` with a character pattern. -/
def trimEndMatches (c : Char) (s : Text) : Text :=
  s.rdropWhile (· = c)

/-- `str::trim_start_matches` with a character pattern. -/
def trimStartMatches (c : Char) (s : Text) : Text :=
  s.dropWhile (· = c)

/-- Whether trimming has something to remove at the front. -/
def startsBlank (s : Text) : Prop :=
  ∃ c ∈ s.head?, isWhitespace c = true

instance (s : Text) : Decidable (startsBlank s) :=
  decidable_of_iff (s.head?.any isWhitespace = true) <| by
    cases s <;> simp [startsBlank]

/-- Whether trimming has something to remove at the back. -/
def endsBlank (s : Text) : Prop :=
  ∃ c ∈ s.getLast?, isWhitespace c = true

@[simp]
theorem startsBlank_cons {c : Char} {cs : Text} :
    startsBlank (c :: cs) ↔ isWhitespace c = true := by
  simp [startsBlank]

theorem dropWhile_of_not_startsBlank {s : Text} (tight : ¬ startsBlank s) :
    s.dropWhile isWhitespace = s := by
  cases s with
  | nil => rfl
  | cons c cs =>
      rw [startsBlank_cons] at tight
      exact List.dropWhile_cons_of_neg tight

theorem rdropWhile_of_not_endsBlank {s : Text} (tight : ¬ endsBlank s) :
    s.rdropWhile isWhitespace = s := by
  rw [List.rdropWhile_eq_self_iff]
  intro s_ne blank
  exact tight ⟨s.getLast s_ne, List.getLast?_eq_getLast_of_ne_nil s_ne, blank⟩

theorem trim_of_tight {s : Text} (front : ¬ startsBlank s) (back : ¬ endsBlank s) :
    trim s = s := by
  rw [trim, dropWhile_of_not_startsBlank front, rdropWhile_of_not_endsBlank back]

theorem not_startsBlank_dropWhile (s : Text) : ¬ startsBlank (s.dropWhile isWhitespace) := by
  induction s with
  | nil => simp [startsBlank]
  | cons c cs induction =>
      by_cases blank : isWhitespace c = true
      · simpa [blank] using induction
      · simp [startsBlank, blank]

theorem not_endsBlank_trim (s : Text) : ¬ endsBlank (trim s) := by
  rintro ⟨c, last, blank⟩
  have trimmed_ne : trim s ≠ [] := by
    rintro empty
    simp [empty] at last
  have last_eq : (trim s).getLast trimmed_ne = c := by
    simpa [List.getLast?_eq_getLast_of_ne_nil trimmed_ne] using last
  exact List.rdropWhile_last_not isWhitespace _ trimmed_ne (last_eq ▸ blank)

theorem not_startsBlank_trim (s : Text) : ¬ startsBlank (trim s) := by
  rintro ⟨c, first, blank⟩
  obtain ⟨tail, tail_eq⟩ : ∃ tail, trim s = c :: tail := by
    cases trimmed : trim s with
    | nil => simp [trimmed] at first
    | cons d tail => exact ⟨tail, by simpa [trimmed] using first⟩
  obtain ⟨rest, rest_eq⟩ := List.rdropWhile_prefix isWhitespace (s.dropWhile isWhitespace)
  apply not_startsBlank_dropWhile s
  rw [← rest_eq, ← trim, tail_eq]
  exact ⟨c, by simp, blank⟩

@[simp]
theorem trim_trim (s : Text) : trim (trim s) = trim s :=
  trim_of_tight (not_startsBlank_trim s) (not_endsBlank_trim s)

/-- Trimming removes blanks only. -/
theorem mem_trim {s : Text} {c : Char} (member : c ∈ s) (visible : isWhitespace c = false) :
    c ∈ trim s := by
  have kept : ∀ text : Text, c ∈ text → c ∈ text.dropWhile isWhitespace := by
    intro text inside
    rw [← @List.takeWhile_append_dropWhile _ isWhitespace text] at inside
    rcases List.mem_append.mp inside with blank | rest
    · simp [List.mem_takeWhile_imp blank] at visible
    · exact rest
  rw [trim, List.rdropWhile, List.mem_reverse]
  exact kept _ (List.mem_reverse.mpr (kept s member))

theorem mem_trimEndMatches {s : Text} {c d : Char} (other : c ≠ d) :
    c ∈ trimEndMatches d s ↔ c ∈ s := by
  induction s using List.reverseRecOn with
  | nil => simp [trimEndMatches]
  | append_singleton s last induction =>
      rw [trimEndMatches] at induction ⊢
      by_cases same : last = d
      · rw [List.rdropWhile_concat_pos _ _ _ (by simp [same]), induction]
        simp [same, other]
      · rw [List.rdropWhile_concat_neg _ _ _ (by simp [same])]

theorem endsBlank_append {front back : Text} (back_ne : back ≠ []) :
    endsBlank (front ++ back) ↔ endsBlank back := by
  simp [endsBlank, List.getLast?_append_of_ne_nil _ back_ne]

theorem rdropWhile_append {front : Text} (tight : ¬ endsBlank front) (back : Text) :
    (front ++ back).rdropWhile isWhitespace = front ++ back.rdropWhile isWhitespace := by
  induction back using List.reverseRecOn with
  | nil => rw [List.append_nil, rdropWhile_of_not_endsBlank tight]; simp
  | append_singleton back c induction =>
      rw [← List.append_assoc]
      by_cases blank : isWhitespace c = true
      · rw [List.rdropWhile_concat_pos _ _ _ blank, List.rdropWhile_concat_pos _ _ _ blank,
          induction]
      · rw [List.rdropWhile_concat_neg _ _ _ blank, List.rdropWhile_concat_neg _ _ _ blank,
          List.append_assoc]

/-! ## Decimal numbers -/

/-- `str::parse` at an unsigned type with `size` values: an optional `+`, then digits only, and
the value must fit. -/
def parseUnsigned (size : Nat) (s : Text) : Option (Fin size) :=
  let digits := (stripPrefix ['+'] s).getD s
  if digits ≠ [] ∧ digits.all Char.isDigit = true then
    if fits : Nat.ofDigitChars 10 digits 0 < size then
      some ⟨Nat.ofDigitChars 10 digits 0, fits⟩
    else
      none
  else
    none

/-- `str::parse::<u8>`. -/
def parseU8 (s : Text) : Option UInt8 :=
  (parseUnsigned UInt8.size s).map UInt8.ofFin

/-- `str::parse::<u16>`. -/
def parseU16 (s : Text) : Option UInt16 :=
  (parseUnsigned UInt16.size s).map UInt16.ofFin

/-- The `Display` form of an unsigned number. -/
def decimal (n : Nat) : Text :=
  Nat.toDigits 10 n

theorem decimal_ne_nil (n : Nat) : decimal n ≠ [] :=
  Nat.toDigits_ne_nil

theorem isDigit_of_mem_decimal {n : Nat} {c : Char} (member : c ∈ decimal n) :
    c.isDigit = true :=
  Nat.isDigit_of_mem_toDigits (by omega) (by omega) member

theorem not_mem_decimal {n : Nat} {c : Char} (other : c.isDigit = false) : c ∉ decimal n := by
  intro member
  simp [isDigit_of_mem_decimal member] at other

theorem parseUnsigned_decimal {size n : Nat} (fits : n < size) :
    parseUnsigned size (decimal n) = some ⟨n, fits⟩ := by
  have unsigned : stripPrefix ['+'] (decimal n) = none := by
    rw [stripPrefix_eq_none]
    rintro ⟨rest, form⟩
    exact not_mem_decimal (n := n) (c := '+') (by decide) (form ▸ List.mem_cons_self)
  have digits : (decimal n).all Char.isDigit = true :=
    List.all_eq_true.mpr fun _ member => isDigit_of_mem_decimal member
  have value : Nat.ofDigitChars 10 (decimal n) 0 = n := Nat.ofDigitChars_ten_toDigits
  simp [parseUnsigned, unsigned, digits, decimal_ne_nil, value, fits]

/-- No two numbers are written alike. -/
theorem decimal_injective : Function.Injective decimal := by
  intro left right same
  have values := congrArg (fun digits => Nat.ofDigitChars 10 digits 0) same
  simpa only [decimal, Nat.ofDigitChars_ten_toDigits] using values

@[simp]
theorem parseU16_decimal (port : UInt16) : parseU16 (decimal port.toNat) = some port := by
  rw [parseU16, parseUnsigned_decimal port.toNat_lt]
  simp only [Option.map_some, Option.some.injEq]
  exact UInt16.toNat_inj.mp rfl

/-- A text with a character that is neither a sign nor a digit is not a number. -/
theorem parseU16_eq_none_of_mem {s : Text} {c : Char} (member : c ∈ s)
    (not_digit : c.isDigit = false) (not_plus : c ≠ '+') : parseU16 s = none := by
  have digits_fail : ∀ digits : Text, c ∈ digits → digits.all Char.isDigit = false := by
    intro digits inside
    exact List.all_eq_false.mpr ⟨c, inside, by simp [not_digit]⟩
  have inside : c ∈ (stripPrefix ['+'] s).getD s := by
    cases signed : stripPrefix ['+'] s with
    | none => exact member
    | some rest =>
        obtain rfl := stripPrefix_eq_some.mp signed
        simpa [not_plus] using member
  rw [parseU16, Option.map_eq_none_iff, parseUnsigned]
  simp [digits_fail _ inside]

theorem toNat_of_mem_decimal {n : Nat} {c : Char} (member : c ∈ decimal n) :
    48 ≤ c.toNat ∧ c.toNat ≤ 57 := by
  have digit := isDigit_of_mem_decimal member
  simp only [Char.isDigit, Bool.and_eq_true, decide_eq_true_eq, ge_iff_le] at digit
  exact ⟨UInt32.le_iff_toNat_le.mp digit.1, UInt32.le_iff_toNat_le.mp digit.2⟩

theorem not_endsBlank_decimal (front : Text) (n : Nat) : ¬ endsBlank (front ++ decimal n) := by
  rw [endsBlank_append (decimal_ne_nil n)]
  rintro ⟨c, last, blank⟩
  obtain ⟨lower, upper⟩ := toNat_of_mem_decimal (List.mem_of_getLast? last)
  simp only [isWhitespace, Bool.or_eq_true, Bool.and_eq_true, beq_iff_eq, decide_eq_true_eq]
    at blank
  omega

end Text
end Foundation
