import AimailBridge.Foundation.Text

/-!
# Nested texts

Texts with brackets and quoted strings, in which a comma separates only outside of all of them.  A
text that closes what it opens ends where the first separator outside of it stands, so a list of
such texts can be read off from them with the separators between.
-/

namespace Foundation

/-- Where a reader of nested text stands. -/
inductive ScanMode
  /-- Outside of strings. -/
  | outside
  /-- Inside a string. -/
  | inside
  /-- Inside a string, after a backslash. -/
  | escaped

/-- One character, by the number of brackets that are open; nothing for a separator or a closing
bracket with none open. -/
def scanStep : Nat × ScanMode → Char → Option (Nat × ScanMode)
  | (depth, .outside), c =>
      if c = '"' then some (depth, .inside)
      else if c = '[' ∨ c = '\x7B' then some (depth + 1, .outside)
      else if c = ']' ∨ c = '\x7D' then if depth = 0 then none else some (depth - 1, .outside)
      else if c = ',' then if depth = 0 then none else some (depth, .outside)
      else some (depth, .outside)
  | (depth, .inside), c =>
      if c = '"' then some (depth, .outside)
      else if c = '\\' then some (depth, .escaped)
      else some (depth, .inside)
  | (depth, .escaped), _ => some (depth, .inside)

/-- Read a text from a state on. -/
def scan (state : Nat × ScanMode) (s : Text) : Option (Nat × ScanMode) :=
  s.foldlM scanStep state

/-- The text closes every bracket and string that it opens, and separates nothing outside. -/
def Closed (s : Text) : Prop :=
  scan (0, .outside) s = some (0, .outside)

/-- The character ends a text that stands before it. -/
def EndsText (c : Char) : Prop :=
  c = ',' ∨ c = ']' ∨ c = '\x7D'

/-- Texts with commas between them. -/
def separated (texts : List Text) : Text :=
  List.intercalate [','] texts

/-- A string in its quotes. -/
def quoted (raw : Text) : Text :=
  '"' :: (raw ++ ['"'])

/-- What stands between the quotes of a string: a quote only after a backslash. -/
inductive StringBody : Text → Prop
  /-- Nothing. -/
  | nil : StringBody []
  /-- A character for itself. -/
  | plain {c : Char} {rest : Text} (no_quote : c ≠ '"') (no_escape : c ≠ '\\')
      (body : StringBody rest) : StringBody (c :: rest)
  /-- An escaped character. -/
  | escape {c : Char} {rest : Text} (body : StringBody rest) : StringBody ('\\' :: c :: rest)

/-! ## Reading -/

section Scan

variable {state after : Nat × ScanMode} {depth depth' : Nat} {mode mode' : ScanMode}

theorem scan_append (front back : Text) :
    scan state (front ++ back) = (scan state front).bind fun after => scan after back :=
  List.foldlM_append

theorem scan_cons (c : Char) (s : Text) :
    scan state (c :: s) = (scanStep state c).bind fun after => scan after s := rfl

/-- What is read without closing more than was opened is read alike inside another bracket. -/
theorem scanStep_inside {c : Char} (step : scanStep (depth, mode) c = some (depth', mode')) :
    scanStep (depth + 1, mode) c = some (depth' + 1, mode') := by
  cases mode with
  | outside => grind [scanStep]
  | inside => grind [scanStep]
  | escaped => grind [scanStep]

theorem scan_inside {s : Text} (read : scan (depth, mode) s = some (depth', mode')) :
    scan (depth + 1, mode) s = some (depth' + 1, mode') := by
  induction s generalizing depth mode with
  | nil =>
      obtain ⟨rfl, rfl⟩ := Prod.mk.inj (Option.some.inj read)
      rfl
  | cons c s induction =>
      rw [scan_cons] at read ⊢
      obtain ⟨⟨between, between_mode⟩, step, rest⟩ := Option.bind_eq_some_iff.mp read
      rw [scanStep_inside step]
      exact induction rest

/-- Nothing is read past the character that ends a text. -/
theorem scanStep_endsText {c : Char} (ends : EndsText c) : scanStep (0, .outside) c = none := by
  rcases ends with rfl | rfl | rfl <;> rfl

end Scan

/-! ## Closed texts -/

/-- The characters that do not only stand for themselves outside of strings. -/
def specials : List Char :=
  ['"', '[', '\x7B', ']', '\x7D', ',']

/-- A character that only stands for itself outside of strings. -/
def isPlain (c : Char) : Bool :=
  !specials.contains c

theorem scanStep_plain {c : Char} (plain : isPlain c = true) (depth : Nat) :
    scanStep (depth, .outside) c = some (depth, .outside) := by
  have others : c ∉ specials := by simpa [isPlain] using plain
  simp only [specials, List.mem_cons, List.not_mem_nil, or_false, not_or] at others
  simp [scanStep, others]

theorem closed_plain {s : Text} (plain : ∀ c ∈ s, isPlain c = true) : Closed s := by
  induction s with
  | nil => rfl
  | cons c s induction =>
      rw [Closed, scan_cons, scanStep_plain (plain c List.mem_cons_self)]
      exact induction fun d member => plain d (List.mem_cons_of_mem c member)

theorem closed_append {front back : Text} (front_closed : Closed front)
    (back_closed : Closed back) : Closed (front ++ back) := by
  rw [Closed, scan_append, front_closed]
  exact back_closed

theorem scan_stringBody {raw : Text} (body : StringBody raw) (depth : Nat) :
    scan (depth, .inside) raw = some (depth, .inside) := by
  induction body with
  | nil => rfl
  | plain no_quote no_escape _ induction =>
      rw [scan_cons, scanStep, if_neg no_quote, if_neg no_escape]
      exact induction
  | escape _ induction => exact induction

theorem closed_quoted {raw : Text} (body : StringBody raw) : Closed (quoted raw) := by
  have read := scan_stringBody body 0
  rw [Closed, quoted, scan_cons]
  change scan (0, .inside) (raw ++ ['"']) = _
  rw [scan_append, read]
  rfl

theorem separated_cons_cons (first second : Text) (texts : List Text) :
    separated (first :: second :: texts) = first ++ ',' :: separated (second :: texts) := by
  simp [separated, List.intercalate]

theorem separated_singleton (text : Text) : separated [text] = text := by
  simp [separated, List.intercalate]

/-- Between brackets, separated texts are read as one. -/
theorem scan_separated {texts : List Text} (closed : ∀ text ∈ texts, Closed text) :
    scan (1, .outside) (separated texts) = some (1, .outside) := by
  induction texts with
  | nil => rfl
  | cons first texts induction =>
      have read := scan_inside (closed first List.mem_cons_self)
      have rest := induction fun text member => closed text (List.mem_cons_of_mem first member)
      cases texts with
      | nil => rw [separated_singleton, read]
      | cons second texts =>
          rw [separated_cons_cons, scan_append, read]
          exact rest

theorem closed_brackets {opening closing : Char} (opens : opening = '[' ∨ opening = '\x7B')
    (closes : closing = ']' ∨ closing = '\x7D') {texts : List Text}
    (closed : ∀ text ∈ texts, Closed text) :
    Closed (opening :: (separated texts ++ [closing])) := by
  have opened : scanStep (0, .outside) opening = some (1, .outside) := by
    rcases opens with rfl | rfl <;> rfl
  have closing_step : scanStep (1, .outside) closing = some (0, .outside) := by
    rcases closes with rfl | rfl <;> rfl
  rw [Closed, scan_cons, opened, Option.bind_some, scan_append, scan_separated closed,
    Option.bind_some, scan_cons, closing_step]
  rfl

/-! ## Unique readings -/

/-- A closed text cannot run on past the end of another one. -/
theorem closed_front {left right rest rest' : Text} {ending ending' : Char}
    (left_closed : Closed left) (right_closed : Closed right) (ends : EndsText ending)
    (ends' : EndsText ending') (same : left ++ ending :: rest = right ++ ending' :: rest') :
    left = right ∧ ending :: rest = ending' :: rest' := by
  have not_longer : ∀ {front longer more : Text} {c : Char}, Closed front → EndsText c →
      longer = front ++ c :: more → ¬ Closed longer := by
    rintro front _ more c front_closed ends rfl closed
    rw [Closed, scan_append, front_closed, Option.bind_some, scan_cons, scanStep_endsText ends]
      at closed
    exact absurd closed (Option.some_ne_none _).symm
  rcases List.append_eq_append_iff.mp same with ⟨middle, longer, tail⟩ | ⟨middle, longer, tail⟩
  · cases middle with
    | nil => exact ⟨by rw [longer, List.append_nil], tail⟩
    | cons c middle =>
        obtain ⟨rfl, _⟩ := List.cons.inj tail
        exact absurd right_closed (not_longer left_closed ends longer)
  · cases middle with
    | nil => exact ⟨by rw [longer, List.append_nil], tail.symm⟩
    | cons c middle =>
        obtain ⟨rfl, _⟩ := List.cons.inj tail
        exact absurd left_closed (not_longer right_closed ends' longer)

/-- The texts between two brackets are determined by what stands there. -/
theorem separated_unique {texts texts' : List Text} {closing : Char}
    (closes : closing = ']' ∨ closing = '\x7D') (nonempty : texts ≠ []) (nonempty' : texts' ≠ [])
    (closed : ∀ text ∈ texts, Closed text) (closed' : ∀ text ∈ texts', Closed text)
    (same : separated texts ++ [closing] = separated texts' ++ [closing]) : texts = texts' := by
  have ends : EndsText closing := Or.inr closes
  have no_comma : closing ≠ ',' := by rcases closes with rfl | rfl <;> decide
  induction texts generalizing texts' with
  | nil => exact absurd rfl nonempty
  | cons first texts induction =>
      cases texts' with
      | nil => exact absurd rfl nonempty'
      | cons first' texts' =>
          have first_closed := closed first List.mem_cons_self
          have first_closed' := closed' first' List.mem_cons_self
          have rest_closed := fun text member => closed text (List.mem_cons_of_mem first member)
          have rest_closed' := fun text member => closed' text (List.mem_cons_of_mem first' member)
          cases texts with
          | nil =>
              cases texts' with
              | nil =>
                  rw [separated_singleton, separated_singleton] at same
                  rw [List.append_cancel_right same]
              | cons second' texts' =>
                  rw [separated_singleton, separated_cons_cons, List.append_assoc,
                    List.cons_append] at same
                  have tails := (closed_front first_closed first_closed' ends (Or.inl rfl) same).2
                  exact absurd (List.cons.inj tails).1 no_comma
          | cons second texts =>
              cases texts' with
              | nil =>
                  rw [separated_singleton, separated_cons_cons, List.append_assoc,
                    List.cons_append] at same
                  have tails := (closed_front first_closed first_closed' (Or.inl rfl) ends same).2
                  exact absurd (List.cons.inj tails).1.symm no_comma
              | cons second' texts' =>
                  rw [separated_cons_cons, separated_cons_cons, List.append_assoc,
                    List.append_assoc, List.cons_append, List.cons_append] at same
                  obtain ⟨rfl, tails⟩ :=
                    closed_front first_closed first_closed' (Or.inl rfl) (Or.inl rfl) same
                  have rest := induction (List.cons_ne_nil _ _) (List.cons_ne_nil _ _) rest_closed
                    rest_closed' (List.cons.inj tails).2
                  rw [rest]

/-- The closing quote of a string is determined by what stands before it. -/
theorem stringBody_unique {raw raw' rest rest' : Text} (body : StringBody raw)
    (body' : StringBody raw') (same : raw ++ '"' :: rest = raw' ++ '"' :: rest') :
    raw = raw' ∧ rest = rest' := by
  induction body generalizing raw' with
  | nil =>
      cases body' with
      | nil => exact ⟨rfl, (List.cons.inj same).2⟩
      | plain no_quote _ _ => exact absurd (List.cons.inj same).1.symm no_quote
      | escape _ => exact absurd (List.cons.inj same).1 (by decide)
  | plain no_quote no_escape _ induction =>
      cases body' with
      | nil => exact absurd (List.cons.inj same).1 no_quote
      | plain _ _ body' =>
          obtain ⟨rfl, tails⟩ := List.cons.inj same
          obtain ⟨rfl, rests⟩ := induction body' tails
          exact ⟨rfl, rests⟩
      | escape _ => exact absurd (List.cons.inj same).1 no_escape
  | escape _ induction =>
      cases body' with
      | nil => exact absurd (List.cons.inj same).1 (by decide)
      | plain _ no_escape _ => exact absurd (List.cons.inj same).1.symm no_escape
      | escape body' =>
          obtain ⟨rfl, tails⟩ := List.cons.inj (List.cons.inj same).2
          obtain ⟨rfl, rests⟩ := induction body' tails
          exact ⟨rfl, rests⟩

end Foundation
