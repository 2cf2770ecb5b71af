import AimailBridge.Foundation.Json
import AimailBridge.Foundation.Members
import AimailBridge.Foundation.Nesting

/-!
# JSON texts

The texts of JSON values, in a style that says which blanks may stand between tokens, how numbers
and strings are spelled and in which order members are listed.  Reading has a liberal style, writing
a strict one.  How a crate spells its scalars is a parameter; where the values stand in a text is
not: a text is a text of one value at most.
-/

namespace Foundation

/-- A style of JSON texts. -/
structure JsonStyle where
  /-- What may stand around a token. -/
  blank : Text → Prop
  /-- The spellings of a number. -/
  number : Text → JsonNumber → Prop
  /-- The spellings of a string, between its quotes. -/
  string : Text → Text → Prop
  /-- The members of an object that lists these members in its text. -/
  members : List (Text × Json) → List (Text × Json) → Prop

/-- A blank of JSON. -/
def isBlank (c : Char) : Bool :=
  [' ', '\t', '\n', '\r'].contains c

/-- A character of a number. -/
def isNumberChar (c : Char) : Bool :=
  c.isDigit || c == '+' || c == '-' || c == '.' || c == 'e' || c == 'E'

/-- Something with blanks around it. -/
def Padded (blank : Text → Prop) (inside : Text → Prop) (text : Text) : Prop :=
  ∃ before inner after, blank before ∧ inside inner ∧ blank after ∧
    text = before ++ (inner ++ after)

/-- The texts between the brackets of a list: one for each element, or a blank when there is none.
-/
def Itemized {α : Type} (blank : Text → Prop) (element : Text → α → Prop) (texts : List Text)
    (items : List α) : Prop :=
  (items = [] ∧ ∃ gap, blank gap ∧ texts = [gap]) ∨ (items ≠ [] ∧ List.Forall₂ element texts items)

namespace JsonStyle

/-- The texts of a member of an object, when values have these texts. -/
def Member (style : JsonStyle) (value : Text → Json → Prop) (text : Text) (member : Text × Json) :
    Prop :=
  ∃ name rest, text = name ++ ':' :: rest ∧
    Padded style.blank (fun key => ∃ raw, style.string raw member.1 ∧ key = quoted raw) name ∧
    Padded style.blank (fun inner => value inner member.2) rest

/-- The text of a value that is nested less than so deep. -/
def Spells (style : JsonStyle) : Nat → Text → Json → Prop
  | 0, _, _ => False
  | _ + 1, text, .null => text = "null".toList
  | _ + 1, text, .bool value => text = (if value then "true" else "false").toList
  | _ + 1, text, .number value => style.number text value
  | _ + 1, text, .string value => ∃ raw, style.string raw value ∧ text = quoted raw
  | depth + 1, text, .array items => ∃ texts, text = '[' :: (separated texts ++ [']']) ∧
      Itemized style.blank
        (fun text item => Padded style.blank (fun inner => style.Spells depth inner item) text)
        texts items
  | depth + 1, text, .object members => ∃ texts listed,
      text = '\x7B' :: (separated texts ++ ['\x7D']) ∧
      Itemized style.blank (style.Member (style.Spells depth)) texts listed ∧
      style.members listed members

/-- The style keeps to the characters of its tokens. -/
structure Proper (style : JsonStyle) : Prop where
  /-- Blanks are blank. -/
  blank : ∀ gap, style.blank gap → ∀ c ∈ gap, isBlank c = true
  /-- Numbers are spelled in the characters of numbers. -/
  number : ∀ text value, style.number text value →
    text ≠ [] ∧ ∀ c ∈ text, isNumberChar c = true
  /-- No string ends before its closing quote. -/
  string : ∀ raw value, style.string raw value → StringBody raw

end JsonStyle

/-- A text that neither begins nor ends with a blank. -/
def Solid (text : Text) : Prop :=
  ∃ first rest last front, text = first :: rest ∧ text = front ++ [last] ∧
    isBlank first = false ∧ isBlank last = false

/-! ## Blanks -/

section Blanks

variable {gap gap' before before' inner inner' after after' : Text}

/-- The blanks in front of a token are determined by what stands there. -/
theorem blank_unique {c c' : Char} {rest rest' : Text} (gap_blank : ∀ c ∈ gap, isBlank c = true)
    (gap_blank' : ∀ c ∈ gap', isBlank c = true) (solid : isBlank c = false)
    (solid' : isBlank c' = false) (same : gap ++ c :: rest = gap' ++ c' :: rest') :
    gap = gap' ∧ c :: rest = c' :: rest' := by
  induction gap generalizing gap' with
  | nil =>
      cases gap' with
      | nil => exact ⟨rfl, same⟩
      | cons d gap' =>
          obtain ⟨rfl, _⟩ := List.cons.inj same
          rw [gap_blank' c List.mem_cons_self] at solid
          exact absurd solid.symm Bool.false_ne_true
  | cons d gap induction =>
      cases gap' with
      | nil =>
          obtain ⟨rfl, _⟩ := List.cons.inj same
          rw [gap_blank d List.mem_cons_self] at solid'
          exact absurd solid'.symm Bool.false_ne_true
      | cons d' gap' =>
          obtain ⟨rfl, tails⟩ := List.cons.inj same
          obtain ⟨rfl, rests⟩ := induction
            (fun c member => gap_blank c (List.mem_cons_of_mem d member))
            (fun c member => gap_blank' c (List.mem_cons_of_mem d member)) tails
          exact ⟨rfl, rests⟩

/-- What is left after blanks have been put behind it ends where the blanks begin. -/
theorem blank_unique_back (after_blank : ∀ c ∈ after, isBlank c = true)
    (after_blank' : ∀ c ∈ after', isBlank c = true) (solid : Solid inner) (solid' : Solid inner')
    (same : inner ++ after = inner' ++ after') : inner = inner' ∧ after = after' := by
  obtain ⟨_, _, last, front, _, ends, _, last_solid⟩ := solid
  obtain ⟨_, _, last', front', _, ends', _, last_solid'⟩ := solid'
  have reversed := congrArg List.reverse same
  rw [ends, ends'] at reversed
  simp only [List.reverse_append, List.reverse_cons, List.reverse_nil, List.nil_append,
    List.singleton_append] at reversed
  obtain ⟨afters, inners⟩ := blank_unique
    (fun c member => after_blank c (List.mem_reverse.mp member))
    (fun c member => after_blank' c (List.mem_reverse.mp member)) last_solid last_solid' reversed
  rw [List.reverse_inj] at afters
  obtain ⟨lasts, fronts⟩ := List.cons.inj inners
  rw [List.reverse_inj] at fronts
  exact ⟨by rw [ends, ends', lasts, fronts], afters⟩

/-- With more blanks and more texts between them, the same texts are padded. -/
theorem Padded.mono {blank blank' : Text → Prop} {inside inside' : Text → Prop} {text : Text}
    (blanks : ∀ gap, blank gap → blank' gap) (within : ∀ inner, inside inner → inside' inner)
    (padded : Padded blank inside text) : Padded blank' inside' text := by
  obtain ⟨before, inner, after, before_blank, spelled, after_blank, rfl⟩ := padded
  exact ⟨before, inner, after, blanks _ before_blank, within inner spelled, blanks _ after_blank,
    rfl⟩

/-- What stands between blanks is determined. -/
theorem padded_unique {blank blank' : Text → Prop} {inside inside' : Text → Prop} {text : Text}
    (blanks : ∀ gap, blank gap → ∀ c ∈ gap, isBlank c = true)
    (blanks' : ∀ gap, blank' gap → ∀ c ∈ gap, isBlank c = true)
    (solid : ∀ inner, inside inner → Solid inner) (solid' : ∀ inner, inside' inner → Solid inner)
    (padded : Padded blank inside text) (padded' : Padded blank' inside' text) :
    ∃ before inner after, (blank before ∧ blank' before) ∧ (inside inner ∧ inside' inner) ∧
      (blank after ∧ blank' after) ∧ text = before ++ (inner ++ after) := by
  obtain ⟨before, inner, after, before_blank, within, after_blank, rfl⟩ := padded
  obtain ⟨before', inner', after', before_blank', within', after_blank', same⟩ := padded'
  obtain ⟨first, rest, _, _, starts, _, first_solid, _⟩ := solid inner within
  obtain ⟨first', rest', _, _, starts', _, first_solid', _⟩ := solid' inner' within'
  have heads := same
  rw [starts, starts', List.cons_append, List.cons_append] at heads
  obtain ⟨rfl, tails⟩ := blank_unique (blanks _ before_blank) (blanks' _ before_blank')
    first_solid first_solid' heads
  rw [← List.cons_append, ← List.cons_append, ← starts, ← starts'] at tails
  obtain ⟨rfl, rfl⟩ := blank_unique_back (blanks _ after_blank) (blanks' _ after_blank')
    (solid _ within) (solid' _ within') tails
  exact ⟨before, inner, after, ⟨before_blank, before_blank'⟩, ⟨within, within'⟩,
    ⟨after_blank, after_blank'⟩, rfl⟩

end Blanks

/-! ## Shapes of texts -/

section Shapes

variable {style : JsonStyle} {depth : Nat} {text : Text} {value : Json}

theorem not_contains {characters : List Char} {visible : Char → Bool}
    (none_visible : characters.all (fun c => !visible c) = true) {c : Char}
    (seen : visible c = true) : characters.contains c = false := by
  by_contra contained
  have hidden := List.all_eq_true.mp none_visible c (by simpa using contained)
  rw [seen] at hidden
  exact absurd hidden Bool.false_ne_true

/-- A text in which only some characters occur. -/
theorem forall_of_all {visible : Char → Bool} (all : text.all visible = true) :
    ∀ c ∈ text, visible c = true :=
  List.all_eq_true.mp all

theorem solid_of_visible (nonempty : text ≠ []) (visible : ∀ c ∈ text, (!isBlank c) = true) :
    Solid text := by
  have solid : ∀ c ∈ text, isBlank c = false := fun c member =>
    Bool.not_eq_true' _ ▸ visible c member
  obtain ⟨first, rest, starts⟩ := List.exists_cons_of_ne_nil nonempty
  refine ⟨first, rest, text.getLast nonempty, text.dropLast, starts, ?_, solid first ?_,
    solid _ (List.getLast_mem nonempty)⟩
  · exact (List.dropLast_concat_getLast nonempty).symm
  · rw [starts]
    exact List.mem_cons_self

theorem solid_enclosed {opening closing : Char} (opening_solid : isBlank opening = false)
    (closing_solid : isBlank closing = false) (inner : Text) :
    Solid (opening :: (inner ++ [closing])) :=
  ⟨opening, inner ++ [closing], closing, opening :: inner, rfl, rfl, opening_solid, closing_solid⟩

theorem not_blank_of_isNumberChar {c : Char} (number : isNumberChar c = true) :
    (!isBlank c) = true := by
  rw [isBlank, not_contains (by decide) number]
  rfl

theorem forall_of_forall₂ {α β : Type} {related : α → β → Prop} {holds : α → Prop}
    (implies : ∀ a b, related a b → holds a) {left : List α} {right : List β}
    (matched : List.Forall₂ related left right) : ∀ a ∈ left, holds a := by
  induction matched with
  | nil => exact fun a member => absurd member List.not_mem_nil
  | cons head _ induction => exact List.forall_mem_cons.mpr ⟨implies _ _ head, induction⟩

/-- The text of a value has no blanks at its ends. -/
theorem solid_of_spells (proper : style.Proper) (spells : style.Spells depth text value) :
    Solid text := by
  cases depth with
  | zero => exact absurd spells id
  | succ depth =>
      cases value with
      | null =>
          obtain rfl : text = "null".toList := spells
          exact solid_of_visible (List.cons_ne_nil _ _) (forall_of_all rfl)
      | bool value =>
          obtain rfl : text = (if value then "true" else "false").toList := spells
          cases value <;> exact solid_of_visible (List.cons_ne_nil _ _) (forall_of_all rfl)
      | number value =>
          obtain ⟨nonempty, characters⟩ := proper.number text value spells
          exact solid_of_visible nonempty fun c member =>
            not_blank_of_isNumberChar (characters c member)
      | string value =>
          obtain ⟨raw, _, rfl⟩ := spells
          exact solid_enclosed rfl rfl raw
      | array items =>
          obtain ⟨texts, rfl, _⟩ := spells
          exact solid_enclosed rfl rfl (separated texts)
      | object members =>
          obtain ⟨texts, listed, rfl, _⟩ := spells
          exact solid_enclosed rfl rfl (separated texts)

theorem isPlain_of_visible {visible : Char → Bool}
    (none_visible : specials.all (fun c => !visible c) = true) {c : Char}
    (seen : visible c = true) : isPlain c = true := by
  rw [isPlain, not_contains none_visible seen]
  rfl

theorem closed_of_blank (blank : ∀ c ∈ text, isBlank c = true) : Closed text :=
  closed_plain fun c member => isPlain_of_visible (by decide) (blank c member)

theorem closed_of_padded {inside : Text → Prop}
    (blanks : ∀ gap, style.blank gap → ∀ c ∈ gap, isBlank c = true)
    (closed : ∀ inner, inside inner → Closed inner) (padded : Padded style.blank inside text) :
    Closed text := by
  obtain ⟨before, inner, after, before_blank, within, after_blank, rfl⟩ := padded
  exact closed_append (closed_of_blank (blanks before before_blank))
    (closed_append (closed inner within) (closed_of_blank (blanks after after_blank)))

theorem closed_of_member {inside : Text → Json → Prop} (proper : style.Proper)
    (closed : ∀ inner value, inside inner value → Closed inner) {member : Text × Json}
    (listed : style.Member inside text member) : Closed text := by
  obtain ⟨name, rest, rfl, name_padded, rest_padded⟩ := listed
  have name_closed : Closed name := closed_of_padded proper.blank
    (by rintro _ ⟨raw, spelled, rfl⟩; exact closed_quoted (proper.string raw _ spelled)) name_padded
  have rest_closed : Closed rest :=
    closed_of_padded proper.blank (fun inner spelled => closed inner _ spelled) rest_padded
  exact closed_append name_closed (@closed_append [':'] rest rfl rest_closed)

theorem closed_of_itemized {α : Type} {element : Text → α → Prop}
    (blanks : ∀ gap, style.blank gap → ∀ c ∈ gap, isBlank c = true)
    (closed : ∀ text item, element text item → Closed text) {texts : List Text} {items : List α}
    (itemized : Itemized style.blank element texts items) :
    texts ≠ [] ∧ ∀ text ∈ texts, Closed text := by
  rcases itemized with ⟨_, gap, gap_blank, rfl⟩ | ⟨nonempty, elements⟩
  · refine ⟨List.cons_ne_nil _ _, fun text member => ?_⟩
    rw [List.mem_singleton.mp member]
    exact closed_of_blank (blanks gap gap_blank)
  · refine ⟨fun empty => ?_, forall_of_forall₂ closed elements⟩
    rw [empty] at elements
    exact nonempty (List.forall₂_nil_left_iff.mp elements)

/-- The text of a value closes whatever it opens. -/
theorem closed_of_spells (proper : style.Proper) (spells : style.Spells depth text value) :
    Closed text := by
  induction depth generalizing text value with
  | zero => exact absurd spells id
  | succ depth induction =>
      cases value with
      | null =>
          obtain rfl : text = "null".toList := spells
          exact closed_plain (forall_of_all rfl)
      | bool value =>
          obtain rfl : text = (if value then "true" else "false").toList := spells
          cases value <;> exact closed_plain (forall_of_all rfl)
      | number value =>
          have characters := (proper.number text value spells).2
          exact closed_plain fun c member =>
            isPlain_of_visible (by decide) (characters c member)
      | string value =>
          obtain ⟨raw, spelled, rfl⟩ := spells
          exact closed_quoted (proper.string raw value spelled)
      | array items =>
          obtain ⟨texts, rfl, itemized⟩ := spells
          have closed := closed_of_itemized proper.blank
            (fun text item padded => closed_of_padded proper.blank
              (fun inner inner_spells => induction inner_spells) padded) itemized
          exact closed_brackets (Or.inl rfl) (Or.inl rfl) closed.2
      | object members =>
          obtain ⟨texts, listed, rfl, itemized, _⟩ := spells
          have closed := closed_of_itemized proper.blank
            (fun text member => closed_of_member proper
              fun inner value inner_spells => induction inner_spells) itemized
          exact closed_brackets (Or.inr rfl) (Or.inr rfl) closed.2

end Shapes

/-! ## What a text determines -/

/-- The forms of a value. -/
inductive JsonKind
  /-- `null`. -/
  | null
  /-- `true` or `false`. -/
  | bool
  /-- A number. -/
  | number
  /-- A string. -/
  | string
  /-- An array. -/
  | array
  /-- An object. -/
  | object

/-- The form of a value. -/
def Json.kind : Json → JsonKind
  | .null => .null
  | .bool _ => .bool
  | .number _ => .number
  | .string _ => .string
  | .array _ => .array
  | .object _ => .object

/-- The form of the values whose texts begin with this character. -/
def kindOfChar (c : Char) : JsonKind :=
  if c = 'n' then .null
  else if c = 't' ∨ c = 'f' then .bool
  else if c = '"' then .string
  else if c = '[' then .array
  else if c = '\x7B' then .object
  else .number

theorem kindOfChar_number {c : Char} (number : isNumberChar c = true) :
    kindOfChar c = .number := by
  have others : c ∉ ['n', 't', 'f', '"', '[', '\x7B'] := by
    simpa using @not_contains ['n', 't', 'f', '"', '[', '\x7B'] _ (by decide) c number
  simp only [List.mem_cons, List.not_mem_nil, or_false, not_or] at others
  simp [kindOfChar, others]

section Unique

variable {style style' : JsonStyle} {depth depth' : Nat} {text : Text} {value value' : Json}

/-- The first character of a text tells the form of its value. -/
theorem kind_of_spells (proper : style.Proper) (spells : style.Spells depth text value) :
    text.head?.map kindOfChar = some value.kind := by
  cases depth with
  | zero => exact absurd spells id
  | succ depth =>
      cases value with
      | null =>
          obtain rfl : text = "null".toList := spells
          rfl
      | bool value =>
          obtain rfl : text = (if value then "true" else "false").toList := spells
          cases value <;> rfl
      | number value =>
          obtain ⟨nonempty, characters⟩ := proper.number text value spells
          obtain ⟨first, rest, rfl⟩ := List.exists_cons_of_ne_nil nonempty
          exact congrArg some (kindOfChar_number (characters first List.mem_cons_self))
      | string value =>
          obtain ⟨raw, _, rfl⟩ := spells
          rfl
      | array items =>
          obtain ⟨texts, rfl, _⟩ := spells
          rfl
      | object members =>
          obtain ⟨texts, listed, rfl, _⟩ := spells
          rfl

/-- Two values with the same text have the same form. -/
theorem same_kind (proper : style.Proper) (proper' : style'.Proper)
    (spells : style.Spells depth text value) (spells' : style'.Spells depth' text value') :
    value.kind = value'.kind :=
  Option.some.inj ((kind_of_spells proper spells).symm.trans (kind_of_spells proper' spells'))

/-- The text of an element closes whatever it opens, and is no blank. -/
def Delimits {α : Type} (element : Text → α → Prop) : Prop :=
  ∀ text item, element text item → Closed text ∧ ∃ c ∈ text, isBlank c = false

theorem delimits_item (proper : style.Proper) : Delimits fun text item =>
    Padded style.blank (fun inner => style.Spells depth inner item) text := by
  intro text item padded
  refine ⟨closed_of_padded proper.blank (fun inner spells => closed_of_spells proper spells)
    padded, ?_⟩
  obtain ⟨before, inner, after, _, spells, _, rfl⟩ := padded
  obtain ⟨first, rest, _, _, starts, _, solid, _⟩ := solid_of_spells proper spells
  refine ⟨first, List.mem_append_right before (List.mem_append_left after ?_), solid⟩
  rw [starts]
  exact List.mem_cons_self

theorem delimits_member (proper : style.Proper) :
    Delimits (style.Member (style.Spells depth)) := by
  intro text member listed
  refine ⟨closed_of_member proper (fun inner value spells => closed_of_spells proper spells)
    listed, ?_⟩
  obtain ⟨name, rest, rfl, _⟩ := listed
  exact ⟨':', List.mem_append_right name List.mem_cons_self, rfl⟩

/-- What stands between two brackets determines the texts of the elements. -/
theorem itemized_unique {α β : Type} {element : Text → α → Prop} {element' : Text → β → Prop}
    (proper : style.Proper) (proper' : style'.Proper) (delimits : Delimits element)
    (delimits' : Delimits element') {texts texts' : List Text} {items : List α} {items' : List β}
    {closing : Char} (closes : closing = ']' ∨ closing = '\x7D')
    (itemized : Itemized style.blank element texts items)
    (itemized' : Itemized style'.blank element' texts' items')
    (same : separated texts ++ [closing] = separated texts' ++ [closing]) : texts = texts' ∧
      (items = [] ∧ items' = [] ∧ (∃ gap, style.blank gap ∧ style'.blank gap ∧ texts = [gap]) ∨
        items ≠ [] ∧ List.Forall₂ element texts items ∧ List.Forall₂ element' texts items') := by
  have closed := closed_of_itemized proper.blank
    (fun text item spells => (delimits text item spells).1) itemized
  have closed' := closed_of_itemized proper'.blank
    (fun text item spells => (delimits' text item spells).1) itemized'
  obtain rfl := separated_unique closes closed.1 closed'.1 closed.2 closed'.2 same
  refine ⟨rfl, ?_⟩
  rcases itemized with ⟨empty, gap, blank, rfl⟩ | ⟨nonempty, elements⟩
  · rcases itemized' with ⟨empty', gap', blank', single⟩ | ⟨nonempty', elements'⟩
    · obtain rfl := (List.cons.inj single).1
      exact Or.inl ⟨empty, empty', gap, blank, blank', rfl⟩
    · obtain ⟨c, member, solid⟩ := forall_of_forall₂
        (fun text item spells => (delimits' text item spells).2) elements' gap List.mem_cons_self
      rw [proper.blank gap blank c member] at solid
      exact absurd solid.symm Bool.false_ne_true
  · rcases itemized' with ⟨empty', gap', blank', rfl⟩ | ⟨nonempty', elements'⟩
    · obtain ⟨c, member, solid⟩ := forall_of_forall₂
        (fun text item spells => (delimits text item spells).2) elements gap' List.mem_cons_self
      rw [proper'.blank gap' blank' c member] at solid
      exact absurd solid.symm Bool.false_ne_true
    · exact Or.inr ⟨nonempty, elements, elements'⟩

/-- An element's text determines the text of the value. -/
theorem item_unique (proper : style.Proper) (proper' : style'.Proper)
    (padded : Padded style.blank (fun inner => style.Spells depth inner value) text)
    (padded' : Padded style'.blank (fun inner => style'.Spells depth' inner value') text) :
    ∃ before inner after, (style.blank before ∧ style'.blank before) ∧
      (style.Spells depth inner value ∧ style'.Spells depth' inner value') ∧
      (style.blank after ∧ style'.blank after) ∧ text = before ++ (inner ++ after) :=
  padded_unique proper.blank proper'.blank (fun _ => solid_of_spells proper)
    (fun _ => solid_of_spells proper') padded padded'

/-- A member's text determines its two sides. -/
theorem member_unique (proper : style.Proper) (proper' : style'.Proper)
    {member member' : Text × Json} (listed : style.Member (style.Spells depth) text member)
    (listed' : style'.Member (style'.Spells depth') text member') :
    ∃ name rest, text = name ++ ':' :: rest ∧
      (∃ before raw after, (style.blank before ∧ style'.blank before) ∧
        (style.string raw member.1 ∧ style'.string raw member'.1) ∧
        (style.blank after ∧ style'.blank after) ∧ name = before ++ (quoted raw ++ after)) ∧
      (∃ before inner after, (style.blank before ∧ style'.blank before) ∧
        (style.Spells depth inner member.2 ∧ style'.Spells depth' inner member'.2) ∧
        (style.blank after ∧ style'.blank after) ∧ rest = before ++ (inner ++ after)) := by
  obtain ⟨_, rest, rfl, ⟨before, _, after, before_blank, ⟨raw, spelled, rfl⟩, after_blank, rfl⟩,
    rest_padded⟩ := listed
  obtain ⟨_, rest', same, ⟨before', _, after', before_blank', ⟨raw', spelled', rfl⟩, after_blank',
    rfl⟩, rest_padded'⟩ := listed'
  simp only [quoted, List.append_assoc, List.cons_append, List.nil_append] at same
  obtain ⟨rfl, quotes⟩ := blank_unique (proper.blank _ before_blank)
    (proper'.blank _ before_blank') rfl rfl same
  obtain ⟨rfl, behind⟩ := stringBody_unique (proper.string _ _ spelled)
    (proper'.string _ _ spelled') (List.cons.inj quotes).2
  obtain ⟨rfl, colons⟩ := blank_unique (proper.blank _ after_blank)
    (proper'.blank _ after_blank') rfl rfl behind
  obtain rfl := (List.cons.inj colons).2
  exact ⟨_, rest, rfl,
    ⟨before, raw, after, ⟨before_blank, before_blank'⟩, ⟨spelled, spelled'⟩,
      ⟨after_blank, after_blank'⟩, rfl⟩,
    item_unique proper proper' rest_padded rest_padded'⟩

end Unique

end Foundation
