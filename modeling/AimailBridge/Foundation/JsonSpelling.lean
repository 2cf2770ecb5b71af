import AimailBridge.Foundation.Http
import AimailBridge.Foundation.JsonText

/-!
# Reading and writing JSON texts

A crate reads texts with blanks and with members in any order; it keeps the members of an object in
the order of their keys and writes compact texts.  A compact text is one that it would write itself:
without blanks, with ascending keys, and with its own spellings of numbers and strings.
-/

namespace Foundation

/-- How a crate spells numbers and strings. -/
structure JsonTokens where
  /-- The literals that it reads as a number. -/
  readsNumber : Text → JsonNumber → Prop
  /-- The literal that it writes for a number. -/
  writesNumber : JsonNumber → Text → Prop
  /-- What it reads between quotes as a string. -/
  readsString : Text → Text → Prop
  /-- What it writes between quotes for a string. -/
  writesString : Text → Text → Prop

/-- What the spellings of a crate obey. -/
structure JsonTokens.Lawful (tokens : JsonTokens) : Prop where
  /-- A literal is read as one number. -/
  reads_number : ∀ text first second,
    tokens.readsNumber text first → tokens.readsNumber text second → first = second
  /-- A number is written as one literal. -/
  writes_number : ∀ value first second,
    tokens.writesNumber value first → tokens.writesNumber value second → first = second
  /-- What is read as a number is spelled in the characters of numbers. -/
  read_number : ∀ text value, tokens.readsNumber text value →
    text ≠ [] ∧ ∀ c ∈ text, isNumberChar c = true
  /-- What is written for a number is spelled in the characters of numbers. -/
  written_number : ∀ value text, tokens.writesNumber value text →
    text ≠ [] ∧ ∀ c ∈ text, isNumberChar c = true
  /-- What stands between quotes is read as one string. -/
  reads_string : ∀ raw first second,
    tokens.readsString raw first → tokens.readsString raw second → first = second
  /-- A string is written in one way. -/
  writes_string : ∀ value first second,
    tokens.writesString value first → tokens.writesString value second → first = second
  /-- What is read as a string has its quotes escaped. -/
  read_string : ∀ raw value, tokens.readsString raw value → StringBody raw
  /-- What is written for a string is read as that string. -/
  written_string : ∀ value raw, tokens.writesString value raw → tokens.readsString raw value

namespace JsonTokens

/-- The texts that a crate reads: the last of several members with one key counts. -/
def reading (tokens : JsonTokens) : JsonStyle where
  blank gap := ∀ c ∈ gap, isBlank c = true
  number := tokens.readsNumber
  string := tokens.readsString
  members listed members := members = collect listed

/-- The texts that a crate writes: compact, with the members as the map lists them. -/
def writing (tokens : JsonTokens) : JsonStyle where
  blank gap := gap = []
  number text value := tokens.writesNumber value text
  string raw value := tokens.writesString value raw
  members listed members := listed = members

/-- The texts that are spelled as a crate would write them. -/
def compact (tokens : JsonTokens) : JsonStyle where
  blank gap := gap = []
  number text value := tokens.readsNumber text value ∧ tokens.writesNumber value text
  string raw value := tokens.readsString raw value ∧ tokens.writesString value raw
  members listed members := listed = members ∧ Ascending listed

end JsonTokens

variable {tokens : JsonTokens} {depth depth' : Nat} {text : Text} {value : Json}

theorem proper_reading (lawful : tokens.Lawful) : tokens.reading.Proper where
  blank _ blank := blank
  number := lawful.read_number
  string := lawful.read_string

theorem proper_writing (lawful : tokens.Lawful) : tokens.writing.Proper where
  blank _ empty _ member := absurd (empty ▸ member) List.not_mem_nil
  number text value := lawful.written_number value text
  string raw value written := lawful.read_string raw value (lawful.written_string value raw written)

/-! ## Elements of two styles -/

theorem eq_of_forall₂ {α β : Type} {related related' : α → β → Prop}
    (unique : ∀ a b b', related a b → related' a b' → b = b') {left : List α}
    {right right' : List β} (matched : List.Forall₂ related left right)
    (matched' : List.Forall₂ related' left right') : right = right' := by
  induction matched generalizing right' with
  | nil => exact (List.forall₂_nil_left_iff.mp matched').symm
  | cons head _ induction =>
      cases matched' with
      | cons head' tail' => rw [unique _ _ _ head head', induction tail']

theorem eq_of_forall₂_left {α β : Type} {related related' : α → β → Prop}
    (unique : ∀ a a' b, related a b → related' a' b → a = a') {left left' : List α} {right : List β}
    (matched : List.Forall₂ related left right) (matched' : List.Forall₂ related' left' right) :
    left = left' :=
  eq_of_forall₂ (fun b a a' => unique a a' b) matched.flip matched'.flip

theorem forall₂_both {α β γ : Type} {related : α → β → Prop} {related' : α → γ → Prop}
    {both : β → γ → Prop} (implies : ∀ a b c, related a b → related' a c → both b c)
    {left : List α} {right : List β} {right' : List γ}
    (matched : List.Forall₂ related left right) (matched' : List.Forall₂ related' left right') :
    List.Forall₂ both right right' := by
  induction matched generalizing right' with
  | nil =>
      obtain rfl := List.forall₂_nil_left_iff.mp matched'
      exact List.Forall₂.nil
  | cons head _ induction =>
      cases matched' with
      | cons head' tail' => exact List.Forall₂.cons (implies _ _ _ head head') (induction tail')

theorem forall₂_meet {α β : Type} {related related' both : α → β → Prop}
    (implies : ∀ a b, related a b → related' a b → both a b) {left : List α} {right : List β}
    (matched : List.Forall₂ related left right) (matched' : List.Forall₂ related' left right) :
    List.Forall₂ both left right := by
  induction matched with
  | nil => exact List.Forall₂.nil
  | cons head _ induction =>
      cases matched' with
      | cons head' tail' => exact List.Forall₂.cons (implies _ _ head head') (induction tail')

/-! ## A text is read in one way -/

theorem reading_unique (lawful : tokens.Lawful) {value' : Json}
    (spells : tokens.reading.Spells depth text value)
    (spells' : tokens.reading.Spells depth' text value') : value = value' := by
  have proper := proper_reading lawful
  induction depth generalizing text value depth' value' with
  | zero => exact absurd spells id
  | succ depth induction =>
      cases depth' with
      | zero => exact absurd spells' id
      | succ depth' =>
          have kinds := same_kind proper proper spells spells'
          cases value <;> cases value' <;> try exact JsonKind.noConfusion kinds
          case null.null => rfl
          case bool.bool left right =>
            have same := (spells : text = _).symm.trans (spells' : text = _)
            cases left <;> cases right <;> first | rfl | exact absurd same (by decide)
          case number.number left right =>
            rw [lawful.reads_number text left right spells spells']
          case string.string left right =>
            obtain ⟨raw, read, rfl⟩ := spells
            obtain ⟨raw', read', same⟩ := spells'
            obtain rfl := List.append_cancel_right (List.cons.inj same).2
            rw [lawful.reads_string raw left right read read']
          case array.array left right =>
            obtain ⟨texts, rfl, itemized⟩ := spells
            obtain ⟨texts', same, itemized'⟩ := spells'
            obtain ⟨rfl, ⟨rfl, rfl, _⟩ | ⟨_, elements, elements'⟩⟩ := itemized_unique proper proper
              (delimits_item proper) (delimits_item proper) (Or.inl rfl) itemized itemized'
              (List.cons.inj same).2
            · rfl
            · congr 1
              refine eq_of_forall₂ (fun text item item' padded padded' => ?_) elements elements'
              obtain ⟨_, inner, _, _, ⟨inner_spells, inner_spells'⟩, _⟩ :=
                item_unique proper proper padded padded'
              exact induction inner_spells inner_spells'
          case object.object left right =>
            obtain ⟨texts, listed, rfl, itemized, rfl⟩ := spells
            obtain ⟨texts', listed', same, itemized', rfl⟩ := spells'
            obtain ⟨rfl, ⟨rfl, rfl, _⟩ | ⟨_, elements, elements'⟩⟩ := itemized_unique proper proper
              (delimits_member proper) (delimits_member proper) (Or.inr rfl) itemized itemized'
              (List.cons.inj same).2
            · rfl
            · congr 2
              refine eq_of_forall₂ (fun text member member' spelled spelled' => ?_) elements
                elements'
              obtain ⟨_, _, _, ⟨_, raw, _, _, ⟨read, read'⟩, _⟩,
                ⟨_, inner, _, _, ⟨inner_spells, inner_spells'⟩, _⟩⟩ :=
                member_unique proper proper spelled spelled'
              exact Prod.ext (lawful.reads_string raw _ _ read read')
                (induction inner_spells inner_spells')

/-! ## A value is written in one way -/

/-- Without blanks, what stands between them is all there is. -/
theorem padded_eq {inside inside' : Text → Prop} {left right : Text}
    (unique : ∀ inner inner', inside inner → inside' inner' → inner = inner')
    (padded : Padded tokens.writing.blank inside left)
    (padded' : Padded tokens.writing.blank inside' right) : left = right := by
  obtain ⟨_, inner, _, rfl, within, rfl, rfl⟩ := padded
  obtain ⟨_, inner', _, rfl, within', rfl, rfl⟩ := padded'
  rw [unique inner inner' within within']

/-- A value has one text in a style that leaves no choice. -/
theorem writing_unique (lawful : tokens.Lawful) {text' : Text}
    (spells : tokens.writing.Spells depth text value)
    (spells' : tokens.writing.Spells depth' text' value) : text = text' := by
  induction depth generalizing text value depth' text' with
  | zero => exact absurd spells id
  | succ depth induction =>
      cases depth' with
      | zero => exact absurd spells' id
      | succ depth' =>
          cases value with
          | null => exact (spells : text = _).trans (spells' : text' = _).symm
          | bool value => exact (spells : text = _).trans (spells' : text' = _).symm
          | number value => exact lawful.writes_number value text text' spells spells'
          | string value =>
              obtain ⟨raw, written, rfl⟩ := spells
              obtain ⟨raw', written', rfl⟩ := spells'
              rw [lawful.writes_string value raw raw' written written']
          | array items =>
              obtain ⟨texts, rfl, ⟨rfl, _, rfl, rfl⟩ | ⟨nonempty, elements⟩⟩ := spells
              · obtain ⟨texts', rfl, ⟨_, _, rfl, rfl⟩ | ⟨nonempty, _⟩⟩ := spells'
                · rfl
                · exact absurd rfl nonempty
              · obtain ⟨texts', rfl, ⟨empty, _⟩ | ⟨_, elements'⟩⟩ := spells'
                · exact absurd empty nonempty
                · have same : texts = texts' := by
                    refine eq_of_forall₂_left (fun left right item padded padded' => ?_)
                      elements elements'
                    exact padded_eq (fun _ _ => induction) padded padded'
                  rw [same]
          | object members =>
              obtain ⟨texts, _, rfl, ⟨rfl, _, rfl, rfl⟩ | ⟨nonempty, elements⟩, rfl⟩ := spells
              · obtain ⟨texts', _, rfl, ⟨_, _, rfl, rfl⟩ | ⟨nonempty, _⟩, rfl⟩ := spells'
                · rfl
                · exact absurd rfl nonempty
              · obtain ⟨texts', _, rfl, ⟨empty, _⟩ | ⟨_, elements'⟩, rfl⟩ := spells'
                · exact absurd empty nonempty
                · rw [eq_of_forall₂_left (fun left right member spelled spelled' => ?_)
                    elements elements']
                  obtain ⟨name, rest, rfl, name_padded, rest_padded⟩ := spelled
                  obtain ⟨name', rest', rfl, name_padded', rest_padded'⟩ := spelled'
                  have names : name = name' := by
                    refine padded_eq ?_ name_padded name_padded'
                    rintro _ _ ⟨raw, written, rfl⟩ ⟨raw', written', rfl⟩
                    rw [lawful.writes_string member.1 raw raw' written written']
                  rw [names, padded_eq (fun _ _ => induction) rest_padded rest_padded']

/-! ## Compact texts -/

/-- A text in one style is a text in a more liberal one. -/
theorem spells_mono {style style' : JsonStyle} (blank : ∀ gap, style.blank gap → style'.blank gap)
    (number : ∀ text value, style.number text value → style'.number text value)
    (string : ∀ raw value, style.string raw value → style'.string raw value)
    (members : ∀ listed members, style.members listed members → style'.members listed members)
    (spells : style.Spells depth text value) : style'.Spells depth text value := by
  induction depth generalizing text value with
  | zero => exact spells
  | succ depth induction =>
      cases value with
      | null => exact spells
      | bool value => exact spells
      | number value => exact number text value spells
      | string value =>
          obtain ⟨raw, spelled, rfl⟩ := spells
          exact ⟨raw, string raw value spelled, rfl⟩
      | array items =>
          obtain ⟨texts, rfl, ⟨rfl, gap, empty, rfl⟩ | ⟨nonempty, elements⟩⟩ := spells
          · exact ⟨[gap], rfl, Or.inl ⟨rfl, gap, blank gap empty, rfl⟩⟩
          · exact ⟨texts, rfl, Or.inr ⟨nonempty,
              elements.imp fun _ _ padded => padded.mono blank fun _ => induction⟩⟩
      | object own =>
          obtain ⟨texts, listed, rfl, ⟨rfl, gap, empty, rfl⟩ | ⟨nonempty, elements⟩, ordered⟩ :=
            spells
          · exact ⟨[gap], [], rfl, Or.inl ⟨rfl, gap, blank gap empty, rfl⟩, members _ _ ordered⟩
          · refine ⟨texts, listed, rfl, Or.inr ⟨nonempty, elements.imp ?_⟩, members _ _ ordered⟩
            rintro _ member ⟨name, rest, rfl, name_padded, rest_padded⟩
            refine ⟨name, rest, rfl, name_padded.mono blank ?_,
              rest_padded.mono blank fun _ => induction⟩
            rintro _ ⟨raw, spelled, rfl⟩
            exact ⟨raw, string raw _ spelled, rfl⟩

/-- A compact text is read as its value. -/
theorem reading_of_compact (spells : tokens.compact.Spells depth text value) :
    tokens.reading.Spells depth text value := by
  refine spells_mono ?_ ?_ ?_ ?_ spells
  · exact fun _ empty _ member => absurd (empty ▸ member) List.not_mem_nil
  · exact fun _ _ both => both.1
  · exact fun _ _ both => both.1
  · rintro listed _ ⟨rfl, ascending⟩
    exact (collect_of_ascending ascending).symm

/-- A compact text is what is written for its value. -/
theorem writing_of_compact (spells : tokens.compact.Spells depth text value) :
    tokens.writing.Spells depth text value := by
  refine spells_mono ?_ ?_ ?_ ?_ spells
  · exact fun _ empty => empty
  · exact fun _ _ both => both.2
  · exact fun _ _ both => both.2
  · exact fun _ _ both => both.1

theorem ascending_of_keys {α β : Type} {left : List (Text × α)} {right : List (Text × β)}
    (keys : left.map Prod.fst = right.map Prod.fst) (ascending : Ascending right) :
    Ascending left := by
  have sorted : (right.map Prod.fst).Pairwise (· < ·) := List.pairwise_map.mpr ascending
  rw [← keys] at sorted
  exact List.pairwise_map.mp sorted

theorem map_fst_of_forall₂ {α β : Type} {left : List (Text × α)} {right : List (Text × β)}
    (matched : List.Forall₂ (fun member other => member.1 = other.1) left right) :
    left.map Prod.fst = right.map Prod.fst := by
  induction matched with
  | nil => rfl
  | cons head _ induction => rw [List.map_cons, List.map_cons, head, induction]

/-- The keys that are read are those that were written. -/
theorem keys_unique (lawful : tokens.Lawful) {texts : List Text}
    {listed listed' : List (Text × Json)}
    (elements : List.Forall₂ (tokens.reading.Member (tokens.reading.Spells depth)) texts listed)
    (elements' : List.Forall₂ (tokens.writing.Member (tokens.writing.Spells depth')) texts
      listed') : listed.map Prod.fst = listed'.map Prod.fst := by
  refine map_fst_of_forall₂ (forall₂_both (fun text member member' spelled spelled' => ?_)
    elements elements')
  obtain ⟨_, _, _, ⟨_, raw, _, _, ⟨read, write⟩, _⟩, _⟩ :=
    member_unique (proper_reading lawful) (proper_writing lawful) spelled spelled'
  exact lawful.reads_string raw _ _ read (lawful.written_string _ raw write)

/-- What is read as a value and written for it is compact. -/
theorem compact_of_reading_writing (lawful : tokens.Lawful)
    (spells : tokens.reading.Spells depth text value)
    (written : tokens.writing.Spells depth' text value) :
    tokens.compact.Spells depth text value := by
  have proper := proper_reading lawful
  have proper' := proper_writing lawful
  induction depth generalizing text value depth' with
  | zero => exact spells
  | succ depth induction =>
      cases depth' with
      | zero => exact absurd written id
      | succ depth' =>
          cases value with
          | null => exact spells
          | bool value => exact spells
          | number value => exact ⟨spells, written⟩
          | string value =>
              obtain ⟨raw, read, rfl⟩ := spells
              obtain ⟨raw', write, same⟩ := written
              obtain rfl := List.append_cancel_right (List.cons.inj same).2
              exact ⟨raw, ⟨read, write⟩, rfl⟩
          | array items =>
              obtain ⟨texts, rfl, itemized⟩ := spells
              obtain ⟨texts', same, itemized'⟩ := written
              obtain ⟨rfl, ⟨rfl, _, gap, _, empty, rfl⟩ | ⟨nonempty, elements, elements'⟩⟩ :=
                itemized_unique proper proper' (delimits_item proper) (delimits_item proper')
                  (Or.inl rfl) itemized itemized' (List.cons.inj same).2
              · exact ⟨[gap], rfl, Or.inl ⟨rfl, gap, empty, rfl⟩⟩
              · refine ⟨texts, rfl, Or.inr ⟨nonempty, forall₂_meet ?_ elements elements'⟩⟩
                intro text item padded padded'
                obtain ⟨before, inner, after, ⟨_, front⟩, ⟨read, write⟩, ⟨_, back⟩, rfl⟩ :=
                  item_unique proper proper' padded padded'
                exact ⟨before, inner, after, front, induction read write, back, rfl⟩
          | object members =>
              obtain ⟨texts, listed, rfl, itemized, collected⟩ := spells
              obtain ⟨texts', listed', same, itemized', rfl⟩ := written
              obtain ⟨rfl, ⟨rfl, rfl, gap, _, empty, rfl⟩ | ⟨nonempty, elements, elements'⟩⟩ :=
                itemized_unique proper proper' (delimits_member proper) (delimits_member proper')
                  (Or.inr rfl) itemized itemized' (List.cons.inj same).2
              · exact ⟨[gap], [], rfl, Or.inl ⟨rfl, gap, empty, rfl⟩, rfl, List.Pairwise.nil⟩
              · have ascending : Ascending listed :=
                  ascending_of_keys (keys_unique lawful elements elements')
                    (collected ▸ ascending_collect listed)
                obtain rfl : listed = listed' :=
                  (collect_of_ascending ascending).symm.trans collected.symm
                refine ⟨texts, listed, rfl, Or.inr ⟨nonempty, forall₂_meet ?_ elements elements'⟩,
                  rfl, ascending⟩
                intro text member spelled spelled'
                obtain ⟨name, rest, rfl, ⟨before, raw, after, ⟨_, front⟩, strings, ⟨_, back⟩, rfl⟩,
                  ⟨before', inner, after', ⟨_, front'⟩, ⟨read, write⟩, ⟨_, back'⟩, rfl⟩⟩ :=
                  member_unique proper proper' spelled spelled'
                refine ⟨_, _, rfl, ?_, ?_⟩
                · exact ⟨before, quoted raw, after, front, ⟨raw, strings, rfl⟩, back, rfl⟩
                · exact ⟨before', inner, after', front', induction read write, back', rfl⟩

end Foundation
