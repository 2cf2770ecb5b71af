import AimailBridge.Foundation.HashMap
import AimailBridge.Foundation.Text

/-!
# TOML tables of basic strings

The fragment of TOML 1.0 that a generated key/value file uses: comment lines, blank lines, and lines
`"key" = "value"` whose two sides are basic strings.  `readDocument` accepts exactly that fragment.
A TOML parser is a parameter of the developments that use this file; `Standard` says what they may
assume of it.
-/

namespace Foundation
namespace Toml

open Text

/-! ## Basic strings -/

/-- Characters a basic string may hold without an escape. -/
def isUnescaped (c : Char) : Bool :=
  c == '\t' || (0x20 ≤ c.toNat && c != '"' && c != '\\' && c.toNat != 0x7F)

/-- The one-letter escapes. -/
def escapes : List (Char × Char) :=
  [('b', '\x08'), ('t', '\t'), ('n', '\n'), ('f', '\x0C'), ('r', '\r'), ('"', '"'), ('\\', '\\')]

/-- The value of a hexadecimal digit. -/
def hexValue (c : Char) : Option Nat :=
  if c.isDigit then some (c.toNat - 0x30)
  else if 'a' ≤ c ∧ c ≤ 'f' then some (c.toNat - 0x57)
  else if 'A' ≤ c ∧ c ≤ 'F' then some (c.toNat - 0x37)
  else none

/-- Where the reader stands inside a basic string. -/
inductive Mode
  /-- Between characters. -/
  | literal
  /-- After a backslash. -/
  | escape
  /-- Inside a Unicode escape, with the digits still due and the value read so far. -/
  | unicode (left code : Nat)
  deriving DecidableEq

/-- Put one character in front of the contents read. -/
def push (c : Char) (parts : Text × Text) : Text × Text :=
  (c :: parts.1, parts.2)

/-- Read a basic string after its opening quote: its contents, and the text after the closing
quote. -/
def scan : Mode → Text → Option (Text × Text)
  | _, [] => none
  | .literal, c :: cs =>
      if c = '"' then some ([], cs)
      else if c = '\\' then scan .escape cs
      else if isUnescaped c then (scan .literal cs).map (push c)
      else none
  | .escape, c :: cs =>
      if c = 'u' then scan (.unicode 4 0) cs
      else if c = 'U' then scan (.unicode 8 0) cs
      else (escapes.lookup c).bind fun d => (scan .literal cs).map (push d)
  | .unicode left code, c :: cs =>
      (hexValue c).bind fun digit =>
        if 1 < left then scan (.unicode (left - 1) (16 * code + digit)) cs
        else if (16 * code + digit).isValidChar then
          (scan .literal cs).map (push (Char.ofNat (16 * code + digit)))
        else none

/-- A text that needs no escapes. -/
def Plain (s : Text) : Prop :=
  ∀ c ∈ s, isUnescaped c = true

instance (s : Text) : Decidable (Plain s) :=
  List.decidableBAll _ s

/-- The contents of a basic string with the given body, if the body is one. -/
def content (body : Text) : Option Text :=
  match scan .literal (body ++ ['"']) with
  | some (contents, []) => some contents
  | _ => none

theorem isUnescaped_ne {c : Char} (unescaped : isUnescaped c = true) :
    c ≠ '"' ∧ c ≠ '\\' ∧ c ≠ '\n' := by
  refine ⟨?_, ?_, ?_⟩ <;> rintro rfl <;> simp [isUnescaped] at unescaped

theorem hexValue_quote : hexValue '"' = none := by decide

theorem hexValue_newline : hexValue '\n' = none := by decide

theorem escapes_newline : escapes.lookup '\n' = none := by decide

theorem escapes_quote {d : Char} : escapes.lookup '"' = some d ↔ d = '"' := by
  rw [show escapes.lookup '"' = some '"' by decide, Option.some.injEq, eq_comm]

theorem Plain.append {left right : Text} (left_plain : Plain left) (right_plain : Plain right) :
    Plain (left ++ right) := by
  intro c member
  rcases List.mem_append.mp member with inside | inside
  · exact left_plain c inside
  · exact right_plain c inside

theorem Plain.subset {whole part : Text} (plain : Plain whole) (inside : part ⊆ whole) :
    Plain part :=
  fun c member => plain c (inside member)

theorem scan_plain {s : Text} (plain : Plain s) (rest : Text) :
    scan .literal (s ++ '"' :: rest) = some (s, rest) := by
  induction s with
  | nil => simp [scan]
  | cons c cs induction =>
      have unescaped := plain c List.mem_cons_self
      obtain ⟨not_quote, not_backslash, _⟩ := isUnescaped_ne unescaped
      have tail := induction fun d member => plain d (List.mem_cons_of_mem c member)
      simp [scan, not_quote, not_backslash, unescaped, tail, push]

/-- What the reader has found does not depend on the text after it. -/
theorem scan_append {mode : Mode} {s key rest : Text} (found : scan mode s = some (key, rest))
    (more : Text) : scan mode (s ++ more) = some (key, rest ++ more) := by
  induction s generalizing mode key with
  | nil => cases mode <;> simp [scan] at found
  | cons c cs induction =>
      have pushed : ∀ d, (scan .literal cs).map (push d) = some (key, rest) →
          (scan .literal (cs ++ more)).map (push d) = some (key, rest ++ more) := by
        intro d read
        obtain ⟨⟨inner, after⟩, inner_eq, same⟩ := Option.map_eq_some_iff.mp read
        simp only [push, Prod.mk.injEq] at same
        obtain ⟨rfl, rfl⟩ := same
        simp [induction inner_eq, push]
      cases mode with
      | literal =>
          simp only [List.cons_append, scan] at found ⊢
          split_ifs at found ⊢ with quote backslash unescaped
          · obtain ⟨rfl, rfl⟩ := Prod.mk.inj (Option.some.inj found)
            rfl
          · exact induction found
          · exact pushed c found
      | escape =>
          simp only [List.cons_append, scan] at found ⊢
          split_ifs at found ⊢ with short long
          · exact induction found
          · exact induction found
          · obtain ⟨d, escaped, read⟩ := Option.bind_eq_some_iff.mp found
            rw [escaped, Option.bind_some]
            exact pushed d read
      | unicode left code =>
          simp only [List.cons_append, scan] at found ⊢
          obtain ⟨digit, hex, read⟩ := Option.bind_eq_some_iff.mp found
          rw [hex, Option.bind_some]
          split_ifs at read ⊢ with due valid
          · exact induction read
          · exact pushed _ read

theorem content_plain {s : Text} (plain : Plain s) : content s = some s := by
  simp [content, scan_plain plain []]

theorem scan_content {body contents : Text} (reads : content body = some contents)
    (rest : Text) : scan .literal (body ++ '"' :: rest) = some (contents, rest) := by
  rw [content] at reads
  split at reads
  · next found =>
      obtain rfl := Option.some.inj reads
      simpa using scan_append found rest
  · simp at reads

/-- Basic strings stay on one line. -/
theorem newline_not_mem_of_scan {mode : Mode} {body key : Text}
    (found : scan mode (body ++ ['"']) = some (key, [])) : '\n' ∉ body := by
  induction body generalizing mode key with
  | nil => simp
  | cons c cs induction =>
      have pushed : ∀ d, (scan .literal (cs ++ ['"'])).map (push d) = some (key, []) →
          '\n' ∉ cs := by
        intro d read
        obtain ⟨⟨inner, after⟩, inner_eq, same⟩ := Option.map_eq_some_iff.mp read
        simp only [push, Prod.mk.injEq] at same
        obtain ⟨rfl, rfl⟩ := same
        exact induction inner_eq
      have split : '\n' ≠ c ∧ '\n' ∉ cs := by
        cases mode with
        | literal =>
            simp only [List.cons_append, scan] at found
            split_ifs at found with quote backslash unescaped
            · simp at found
            · exact ⟨by rw [backslash]; decide, induction found⟩
            · exact ⟨(isUnescaped_ne unescaped).2.2.symm, pushed c found⟩
        | escape =>
            simp only [List.cons_append, scan] at found
            split_ifs at found with short long
            · exact ⟨by rw [short]; decide, induction found⟩
            · exact ⟨by rw [long]; decide, induction found⟩
            · obtain ⟨d, escaped, read⟩ := Option.bind_eq_some_iff.mp found
              refine ⟨?_, pushed d read⟩
              rintro rfl
              simp [escapes_newline] at escaped
        | unicode left code =>
            simp only [List.cons_append, scan] at found
            obtain ⟨digit, hex, read⟩ := Option.bind_eq_some_iff.mp found
            refine ⟨?_, ?_⟩
            · rintro rfl
              simp [hexValue_newline] at hex
            · split_ifs at read with due valid
              · exact induction read
              · exact pushed _ read
      simpa [not_or] using split

theorem newline_not_mem_of_content {body contents : Text}
    (reads : content body = some contents) : '\n' ∉ body := by
  rw [content] at reads
  split at reads
  · next found => exact newline_not_mem_of_scan found
  · simp at reads

/-- After an escape the contents lag behind the body: the reader cannot catch up with the characters
it still owes, because an escape never yields more than it consumes. -/
private theorem scan_lags (owed : Text) {mode : Mode} {body key rest tail : Text}
    (owed_ne : owed ≠ []) (no_quote : '"' ∉ owed)
    (found : scan mode (body ++ '"' :: tail) = some (key, rest)) :
    key ≠ owed ++ body := by
  obtain ⟨first, later, rfl⟩ := List.exists_cons_of_ne_nil owed_ne
  induction body generalizing mode first later key with
  | nil =>
      cases mode with
      | literal =>
          simp only [List.nil_append, scan, if_true, Option.some.injEq, Prod.mk.injEq] at found
          simp [← found.1]
      | escape =>
          obtain ⟨parts, read, rfl, rfl⟩ : ∃ parts, scan .literal tail = some parts ∧
              '"' :: parts.1 = key ∧ parts.2 = rest := by
            simpa [scan, escapes, push, List.lookup] using found
          intro same
          exact no_quote (List.mem_cons.mpr (Or.inl (List.cons.inj same).1))
      | unicode left code => simp [scan, hexValue_quote] at found
  | cons c cs induction =>
      have wait : ∀ {mode' : Mode}, c ≠ '"' →
          scan mode' (cs ++ '"' :: tail) = some (key, rest) →
          key ≠ (first :: later) ++ c :: cs := by
        intro mode' not_quote read
        have clean : '"' ∉ first :: (later ++ [c]) := by
          rw [← List.cons_append, List.mem_append, List.mem_singleton, not_or]
          exact ⟨no_quote, Ne.symm not_quote⟩
        simpa using induction read first (later ++ [c]) (by simp) clean
      have pay : ∀ d, (c = '"' → d = '"') →
          (scan .literal (cs ++ '"' :: tail)).map (push d) = some (key, rest) →
          key ≠ (first :: later) ++ c :: cs := by
        intro d quoted read same
        obtain ⟨⟨inner, after⟩, inner_eq, parts_eq⟩ := Option.map_eq_some_iff.mp read
        simp only [push, Prod.mk.injEq] at parts_eq
        obtain ⟨rfl, rfl⟩ := parts_eq
        obtain ⟨rfl, inner_same⟩ := List.cons.inj same
        have not_quote : c ≠ '"' := fun quote => no_quote (by simp [quoted quote])
        have clean : '"' ∉ later ++ [c] := by
          rw [List.mem_append, List.mem_singleton, not_or]
          exact ⟨fun inside => no_quote (List.mem_cons_of_mem _ inside), Ne.symm not_quote⟩
        obtain ⟨next, others, split⟩ := List.exists_cons_of_ne_nil
          (show later ++ [c] ≠ [] by simp)
        refine induction inner_eq next others (by simp) (split ▸ clean) ?_
        rw [inner_same, ← split]
        simp
      cases mode with
      | literal =>
          simp only [List.cons_append, scan] at found
          split_ifs at found with quote backslash unescaped
          · obtain ⟨rfl, rfl⟩ := Prod.mk.inj (Option.some.inj found)
            simp
          · exact wait (by rw [backslash]; decide) found
          · exact pay c (fun quote => quote) found
      | escape =>
          simp only [List.cons_append, scan] at found
          split_ifs at found with short long
          · exact wait (by rw [short]; decide) found
          · exact wait (by rw [long]; decide) found
          · obtain ⟨d, escaped, read⟩ := Option.bind_eq_some_iff.mp found
            refine pay d ?_ read
            rintro rfl
            exact escapes_quote.mp escaped
      | unicode left code =>
          simp only [List.cons_append, scan] at found
          obtain ⟨digit, hex, read⟩ := Option.bind_eq_some_iff.mp found
          have not_quote : c ≠ '"' := by
            rintro rfl
            simp [hexValue_quote] at hex
          split_ifs at read with due valid
          · exact wait not_quote read
          · exact pay _ (fun quote => absurd quote not_quote) read

/-- Only a plain text reads back as itself. -/
theorem plain_of_scan_self {s tail rest : Text}
    (found : scan .literal (s ++ '"' :: tail) = some (s, rest)) : Plain s := by
  induction s with
  | nil => simp [Plain]
  | cons c cs induction =>
      simp only [List.cons_append, scan] at found
      split_ifs at found with quote backslash unescaped
      · simp at found
      · exact absurd (by simp [backslash]) (scan_lags ['\\'] (by simp) (by decide) found)
      · obtain ⟨⟨inner, after⟩, inner_eq, parts_eq⟩ := Option.map_eq_some_iff.mp found
        simp only [push, Prod.mk.injEq, List.cons.injEq, true_and] at parts_eq
        obtain ⟨rfl, rfl⟩ := parts_eq
        intro d member
        rcases List.mem_cons.mp member with rfl | inside
        · exact unescaped
        · exact induction inner_eq d inside

/-! ## Documents -/

/-- One line of a document: a comment or nothing, or an entry. -/
def readLine (line : Text) : Option (Option (Σ _ : Text, Text)) :=
  match line with
  | [] => some none
  | c :: cs =>
      if c = '#' then
        if cs.all (fun d => isUnescaped d || d == '"' || d == '\\') then some none else none
      else if c = '"' then
        (scan .literal cs).bind fun (key, afterKey) =>
          (stripPrefix " = \"".toList afterKey).bind fun opened =>
            match scan .literal opened with
            | some (value, []) => some (some ⟨key, value⟩)
            | _ => none
      else none

/-- The entries of consecutive lines. -/
def readLines : List Text → Option (List (Σ _ : Text, Text))
  | [] => some []
  | line :: lines =>
      (readLine line).bind fun entry => (readLines lines).map (entry.toList ++ ·)

/-- The entries of a document of the fragment, in the order of its lines. -/
def readDocument (document : Text) : Option (List (Σ _ : Text, Text)) :=
  readLines (document.splitOn '\n')

/-- A text made of terminated lines. -/
def unlines (lines : List Text) : Text :=
  lines.flatMap (· ++ ['\n'])

/-- A comment line. -/
def IsComment (line : Text) : Prop :=
  line.head? = some '#' ∧ Plain line

instance (line : Text) : Decidable (IsComment line) :=
  inferInstanceAs (Decidable (line.head? = some '#' ∧ Plain line))

/-- The line of an entry, from the bodies of its two basic strings. -/
def entryLine (key value : Text) : Text :=
  '"' :: key ++ "\" = \"".toList ++ value ++ ['"']

theorem readLines_append {front back : List Text} {frontEntries : List (Σ _ : Text, Text)}
    (read : readLines front = some frontEntries) :
    readLines (front ++ back) = (readLines back).map (frontEntries ++ ·) := by
  induction front generalizing frontEntries with
  | nil =>
      obtain rfl := Option.some.inj read
      simp
  | cons line front induction =>
      simp only [readLines, Option.bind_eq_some_iff, Option.map_eq_some_iff] at read
      obtain ⟨entry, line_eq, entries, front_eq, rfl⟩ := read
      simp [readLines, line_eq, induction front_eq, Function.comp_def, List.append_assoc]

theorem splitOn_unlines {lines : List Text} (terminated : ∀ line ∈ lines, '\n' ∉ line)
    (rest : Text) : (unlines lines ++ rest).splitOn '\n' = lines ++ rest.splitOn '\n' := by
  induction lines with
  | nil => simp [unlines]
  | cons line lines induction =>
      have tail := induction fun other member =>
        terminated other (List.mem_cons_of_mem line member)
      have form : unlines (line :: lines) ++ rest = line ++ '\n' :: (unlines lines ++ rest) := by
        simp [unlines]
      rw [form, List.splitOn_append_cons_self_of_not_mem (terminated line List.mem_cons_self), tail]
      rfl

theorem IsComment.newline_not_mem {line : Text} (comment : IsComment line) : '\n' ∉ line :=
  fun member => (isUnescaped_ne (comment.2 '\n' member)).2.2 rfl

theorem readLine_comment {line : Text} (comment : IsComment line) :
    readLine line = some none := by
  obtain ⟨starts, plain⟩ := comment
  cases line with
  | nil => rfl
  | cons c cs =>
      obtain rfl : c = '#' := by simpa using starts
      have allowed : cs.all (fun d => isUnescaped d || d == '"' || d == '\\') = true := by
        rw [List.all_eq_true]
        intro d member
        simp [plain d (List.mem_cons_of_mem '#' member)]
      simp [readLine, allowed]

theorem readLines_comments {lines : List Text} (comments : ∀ line ∈ lines, IsComment line) :
    readLines lines = some [] := by
  induction lines with
  | nil => rfl
  | cons line lines induction =>
      rw [readLines, readLine_comment (comments line List.mem_cons_self),
        induction fun other member => comments other (List.mem_cons_of_mem line member)]
      rfl

theorem readLine_entryLine {key value keyText valueText : Text}
    (key_reads : content key = some keyText) (value_reads : content value = some valueText) :
    readLine (entryLine key value) = some (some ⟨keyText, valueText⟩) := by
  have key_scan := scan_content key_reads (" = \"".toList ++ value ++ ['"'])
  have value_scan := scan_content value_reads []
  have form : entryLine key value = '"' :: (key ++ '"' :: (" = \"".toList ++ value ++ ['"'])) := by
    simp [entryLine]
  rw [form]
  simp only [readLine, show ¬ ('"' = '#') by decide, if_false, if_true, key_scan,
    Option.bind_some]
  rw [List.append_assoc, stripPrefix_append]
  simp [value_scan]

theorem newline_not_mem_entryLine {key value keyText valueText : Text}
    (key_reads : content key = some keyText) (value_reads : content value = some valueText) :
    '\n' ∉ entryLine key value := by
  simp [entryLine, newline_not_mem_of_content key_reads, newline_not_mem_of_content value_reads]

/-- A document of comments and entries reads back as those entries. -/
theorem readDocument_entries {comments : List Text} (commented : ∀ line ∈ comments, IsComment line)
    {bodies : List (Text × Text)} {decode : Text × Text → Σ _ : Text, Text}
    (reads : ∀ body ∈ bodies, content body.1 = some (decode body).1 ∧
      content body.2 = some (decode body).2) :
    readDocument (unlines (comments ++ bodies.map fun body => entryLine body.1 body.2)) =
      some (bodies.map decode) := by
  have terminated : ∀ line ∈ comments ++ bodies.map (fun body => entryLine body.1 body.2),
      '\n' ∉ line := by
    intro line member
    rcases List.mem_append.mp member with comment | entry
    · exact (commented line comment).newline_not_mem
    · obtain ⟨body, inside, rfl⟩ := List.mem_map.mp entry
      exact newline_not_mem_entryLine (reads body inside).1 (reads body inside).2
  have entries : ∀ rest : List Text, readLines
      (bodies.map (fun body => entryLine body.1 body.2) ++ rest) =
        (readLines rest).map (bodies.map decode ++ ·) := by
    intro rest
    refine readLines_append ?_
    clear terminated
    induction bodies with
    | nil => rfl
    | cons body bodies induction =>
        have head := reads body List.mem_cons_self
        have tail := induction fun other member => reads other (List.mem_cons_of_mem body member)
        simp [readLines, readLine_entryLine head.1 head.2, tail]
  have split := splitOn_unlines terminated []
  rw [List.append_nil] at split
  rw [readDocument, split, List.append_assoc, readLines_append (readLines_comments commented),
    entries]
  simp [readLines, readLine]

/-! ## What a parser is assumed to do -/

/-- A TOML parser for tables of strings that follows the standard: it reads every document of the
fragment whose keys are distinct, and whenever it accepts a document whose first entry opens with a
quote, the basic string there is one of the keys. -/
structure Standard (fromStr : Text → Option (HashMap Text Text)) : Prop where
  /-- Documents of the fragment. -/
  reads : ∀ document entries, readDocument document = some entries → entries.NodupKeys →
    ∃ table, fromStr document = some table ∧ table.entries.Perm entries
  /-- The first key of an accepted document. -/
  firstKey : ∀ comments body table, (∀ line ∈ comments, IsComment line) →
    fromStr (unlines comments ++ '"' :: body) = some table →
    ∃ key rest, scan .literal body = some (key, rest) ∧ key ∈ table

/-- The parser that accepts the fragment and nothing else. -/
def fragment (document : Text) : Option (HashMap Text Text) :=
  (readDocument document).bind fun entries =>
    if distinct : (entries.map Sigma.fst).Nodup then some ⟨entries, distinct⟩ else none

theorem fragment_standard : Standard fragment where
  reads document entries read distinct := by
    refine ⟨⟨entries, distinct⟩, ?_, List.Perm.refl entries⟩
    have keys : (entries.map Sigma.fst).Nodup := distinct
    simp [fragment, read, keys]
  firstKey comments body table commented accepted := by
    obtain ⟨entries, read, distinct⟩ := Option.bind_eq_some_iff.mp accepted
    have terminated := fun line member => (commented line member).newline_not_mem
    rw [readDocument, splitOn_unlines terminated,
      readLines_append (readLines_comments commented)] at read
    obtain ⟨more, first_line⟩ : ∃ more, ('"' :: body).splitOn '\n' =
        ('"' :: (breakAt '\n' body).1) :: more := by
      have absent : '\n' ∉ '"' :: (breakAt '\n' body).1 := by
        simp [breakAt_front]
      rcases breakAt_back '\n' body with last | ⟨rest, next⟩
      · have whole := breakAt_append '\n' body
        rw [last, List.append_nil] at whole
        exact ⟨[], by rw [whole] at absent ⊢; exact List.splitOn_eq_singleton absent⟩
      · refine ⟨rest.splitOn '\n', ?_⟩
        conv_lhs => rw [← breakAt_append '\n' body, next]
        exact List.splitOn_append_cons_self_of_not_mem absent rest
    rw [first_line, readLines] at read
    simp only [Option.map_eq_some_iff, Option.bind_eq_some_iff, List.nil_append,
      exists_eq_right] at read
    obtain ⟨entry, line_read, others, others_read, rfl⟩ := read
    simp only [readLine, show ¬ ('"' = '#') by decide, if_false, if_true,
      Option.bind_eq_some_iff, Prod.exists] at line_read
    obtain ⟨key, afterKey, key_scan, opened, _, value_read⟩ := line_read
    refine ⟨key, afterKey ++ (breakAt '\n' body).2, ?_, ?_⟩
    · simpa using scan_append key_scan (breakAt '\n' body).2
    · split at value_read
      · obtain rfl := Option.some.inj value_read
        split_ifs at distinct
        obtain rfl := Option.some.inj distinct
        simp [AList.mem_keys, AList.keys]
      · simp at value_read

end Toml
end Foundation
