import AimailBridge.Foundation.Text

/-!
# Files and the writes that replace them

A file holds bytes, and a text is stored in its UTF-8 form.  A write that replaces a file first cuts
it to nothing and then puts out the new bytes one after the other; it can end before it begins,
after any number of bytes, or when all of them are out.
-/

namespace Foundation

namespace Text

/-- The UTF-8 form of a text. -/
def utf8 (s : Text) : List UInt8 :=
  s.flatMap String.utf8EncodeChar

/-- `String::from_utf8`. -/
def ofUtf8 (bytes : List UInt8) : Option Text :=
  bytes.toByteArray.utf8Decode?.map Array.toList

@[simp]
theorem ofUtf8_utf8 (s : Text) : ofUtf8 (utf8 s) = some s := by
  have encoded : (utf8 s).toByteArray = s.utf8Encode := rfl
  rw [ofUtf8, encoded, List.utf8Decode?_utf8Encode, Option.map_some]

theorem utf8_injective : Function.Injective utf8 := by
  intro left right same
  have decoded := congrArg ofUtf8 same
  rwa [ofUtf8_utf8, ofUtf8_utf8, Option.some.injEq] at decoded

theorem utf8_append (front back : Text) : utf8 (front ++ back) = utf8 front ++ utf8 back :=
  List.flatMap_append

theorem utf8_ne_nil {s : Text} (nonempty : s ≠ []) : utf8 s ≠ [] := by
  intro empty
  have nil : utf8 [] = [] := rfl
  exact nonempty (utf8_injective (empty.trans nil.symm))

end Text

open Text

/-- The bytes of a file, if there is one. -/
abbrev FileContent := Option (List UInt8)

/-- `std::fs::read_to_string`; it fails for a missing file, and for one that is not UTF-8. -/
def readToString (file : FileContent) : Option Text :=
  file.bind ofUtf8

/-- Where a write ends. -/
inductive WritePoint
  /-- The file is not opened. -/
  | unopened
  /-- The file is opened, and this many bytes are put out. -/
  | stopped (written : Nat)
  /-- Everything is put out. -/
  | finished

/-- Whether everything is put out. -/
def WritePoint.isFinished : WritePoint → Bool
  | .finished => true
  | _ => false

/-- `std::fs::write`, as far as it gets. -/
def writeFile (contents : List UInt8) (file : FileContent) : WritePoint → FileContent
  | .unopened => file
  | .stopped written => some (contents.take written)
  | .finished => some contents

/-- A write that ends here touches nothing, or puts out every byte, or stops just when what it has
put out is what was there before. -/
def WritePoint.Harmless (contents : List UInt8) (file : FileContent) : WritePoint → Prop
  | .unopened => True
  | .stopped written => contents.length ≤ written ∨ file = some (contents.take written)
  | .finished => True

/-- A write leaves the whole old file or the whole new one exactly when it ends at a harmless
point. -/
theorem writeFile_whole_iff (contents : List UInt8) (file : FileContent) (point : WritePoint) :
    writeFile contents file point = file ∨ writeFile contents file point = some contents ↔
      point.Harmless contents file := by
  cases point with
  | unopened => exact iff_of_true (Or.inl rfl) trivial
  | finished => exact iff_of_true (Or.inr rfl) trivial
  | stopped written =>
      rw [writeFile, WritePoint.Harmless, Option.some.injEq, List.take_eq_self_iff, eq_comm,
        or_comm]

theorem readToString_utf8 (s : Text) : readToString (some (utf8 s)) = some s :=
  ofUtf8_utf8 s

/-- The write that stops at the end of a part of the text leaves that part. -/
theorem readToString_stopped (front back : Text) (file : FileContent) :
    readToString (writeFile (utf8 (front ++ back)) file (.stopped (utf8 front).length)) =
      some front := by
  rw [writeFile, utf8_append, List.take_left, readToString_utf8]

end Foundation
