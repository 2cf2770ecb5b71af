import AimailBridge.Foundation.Text

/-!
# Simple patterns

The fragment of regular expressions that routes files are made of: literal characters, escaped
punctuation, `.`, and the repetitions `*`, `+` and `?` of one character.  As in a search, a pattern
matches a text when it matches some stretch of it.
-/

namespace Foundation
namespace Pattern

/-- What one item of a pattern consumes. -/
inductive Atom
  /-- Any character but a newline. -/
  | any
  /-- This character. -/
  | char (c : Char)
  deriving DecidableEq

/-- How often an item is matched. -/
inductive Repetition
  /-- Exactly once. -/
  | once
  /-- At most once. -/
  | optional
  /-- Any number of times. -/
  | star
  /-- At least once. -/
  | plus
  deriving DecidableEq

/-- The repetitions by their characters. -/
def repetitions : List (Char × Repetition) :=
  [('?', .optional), ('*', .star), ('+', .plus)]

/-- The characters whose meaning is outside the fragment. -/
def reserved : List Char :=
  ['[', ']', '(', ')', '{', '}', '^', '$', '|']

/-- Read one character of a pattern, given the items before it and whether it is escaped. -/
def readChar (state : List (Atom × Repetition) × Bool) (c : Char) :
    Option (List (Atom × Repetition) × Bool) :=
  if state.2 then
    if c.isAlphanum then none else some ((.char c, .once) :: state.1, false)
  else if c = '\\' then some (state.1, true)
  else if c = '.' then some ((.any, .once) :: state.1, false)
  else if c ∈ reserved then none
  else
    match repetitions.lookup c, state.1 with
    | some repetition, (atom, .once) :: items => some ((atom, repetition) :: items, false)
    | some _, _ => none
    | none, items => some ((.char c, .once) :: items, false)

/-- The items of a pattern of the fragment. -/
def items (pattern : Text) : Option (List (Atom × Repetition)) :=
  match pattern.foldl (fun state c => state.bind (readChar · c)) (some ([], false)) with
  | some (read, false) => some read.reverse
  | _ => none

/-- Whether an atom consumes a character. -/
def Atom.consumes : Atom → Char → Bool
  | .any, c => c != '\n'
  | .char d, c => c == d

/-- The texts left after any number of matches of an atom. -/
def afterStar (atom : Atom) : Text → List Text
  | [] => [[]]
  | c :: cs => (c :: cs) :: if atom.consumes c then afterStar atom cs else []

/-- The texts left after one match of an atom. -/
def afterOnce (atom : Atom) : Text → List Text
  | [] => []
  | c :: cs => if atom.consumes c then [cs] else []

/-- The texts that can be left after matching an item. -/
def after (item : Atom × Repetition) (text : Text) : List Text :=
  match item.2 with
  | .once => afterOnce item.1 text
  | .optional => text :: afterOnce item.1 text
  | .star => afterStar item.1 text
  | .plus => (afterOnce item.1 text).flatMap (afterStar item.1)

/-- Whether a pattern of the fragment matches somewhere in a text. -/
def isMatch (pattern text : Text) : Bool :=
  match items pattern with
  | none => false
  | some parts =>
      text.tails.any fun start =>
        !(parts.foldl (fun texts item => texts.flatMap (after item)) [start]).isEmpty

/-- The documented form of a pattern for a whole domain. -/
example : isMatch ".*@domain\\.com".toList "agent@domain.com".toList = true := by decide

/-- A repetition sign is not a literal character. -/
example : isMatch "a+b".toList "a+b".toList = false := by decide

end Pattern
end Foundation
