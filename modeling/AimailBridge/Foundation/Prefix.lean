import Mathlib

/-!
# Words with a common prefix

Two words agree on their leading bits exactly when they are equal under a mask of as many ones.  The
mask comes from a subtraction and a shift, which a machine may check or wrap.
-/

namespace Foundation

variable {width : Nat} {left right : BitVec width} {count : Nat}

/-- The first bits of the two words are the same. -/
def SamePrefix (count : Nat) (left right : BitVec width) : Prop :=
  ∀ i < count, left.getMsbD i = right.getMsbD i

/-- `checked_sub`. -/
def checkedSub (a b : UInt8) : Option UInt8 :=
  if b ≤ a then some (a - b) else none

/-- `checked_shl`: a shift by less than the whole word. -/
def checkedShl (word : BitVec width) (amount : Nat) : Option (BitVec width) :=
  if amount < width then some (word <<< amount) else none

theorem checkedSub_of_le {a b : UInt8} (order : b ≤ a) : checkedSub a b = some (a - b) :=
  if_pos order

theorem checkedShl_of_lt {amount : Nat} (within : amount < width) (word : BitVec width) :
    checkedShl word amount = some (word <<< amount) :=
  if_pos within

/-- The mask has ones in front, and as many zeros as it was shifted. -/
theorem getMsbD_mask (within : count ≤ width) (i : Nat) :
    (BitVec.allOnes width <<< (width - count)).getMsbD i = decide (i < count) := by
  rw [BitVec.getMsbD_shiftLeft, BitVec.getMsbD_allOnes, decide_eq_decide]
  omega

/-- Words are equal under the mask exactly when they agree on the bits that it keeps. -/
theorem mask_eq_iff (within : count ≤ width) :
    left &&& BitVec.allOnes width <<< (width - count) =
        right &&& BitVec.allOnes width <<< (width - count) ↔
      SamePrefix count left right := by
  constructor
  · intro same i inside
    have bit := congrArg (fun word => word.getMsbD i) same
    simpa [BitVec.getMsbD_and, getMsbD_mask within, inside] using bit
  · intro same
    refine BitVec.eq_of_getMsbD_eq fun i _ => ?_
    rw [BitVec.getMsbD_and, BitVec.getMsbD_and, getMsbD_mask within]
    by_cases inside : i < count
    · rw [same i inside]
    · simp [inside]

end Foundation
