import AimailBridge.Foundation.Files
import AimailBridge.Foundation.Http

/-!
# Digests and what they are made of

Bytes written in hexadecimal, and texts put together from parts on lines of their own: both can be
taken apart again, so a digest of such a text binds each of its parts.
-/

namespace Foundation

open Text

/-- The hash functions of the crates. -/
structure HashCrates where
  /-- SHA-256. -/
  sha256 : Bytes → Bytes
  /-- HMAC-SHA256 of a message under a key. -/
  hmacSha256 : Bytes → Bytes → Bytes

/-- Two different arguments for which a function has one value. -/
def Collide {α β : Type} (f : α → β) (a b : α) : Prop :=
  a ≠ b ∧ f a = f b

/-- `hex::encode`. -/
def hexEncode (bytes : Bytes) : Text :=
  bytes.flatMap fun b => [Nat.digitChar (b.toNat / 16), Nat.digitChar (b.toNat % 16)]

theorem digitChar_injOn {m n : Nat} (small : m < 16) (small' : n < 16)
    (same : Nat.digitChar m = Nat.digitChar n) : m = n := by
  have table : ∀ m < 16, ∀ n < 16, Nat.digitChar m = Nat.digitChar n → m = n := by decide
  exact table m small n small' same

/-- Hexadecimal text tells which bytes it was written for. -/
theorem hexEncode_injective : Function.Injective hexEncode := by
  intro left
  induction left with
  | nil =>
      intro right same
      cases right with
      | nil => rfl
      | cons b right => simp [hexEncode] at same
  | cons a left induction =>
      intro right same
      cases right with
      | nil => simp [hexEncode] at same
      | cons b right =>
          simp only [hexEncode, List.flatMap_cons, List.cons_append, List.nil_append,
            List.cons.injEq] at same
          obtain ⟨high, low, rest⟩ := same
          have a_small := a.toNat_lt
          have b_small := b.toNat_lt
          have high_eq := digitChar_injOn (by omega) (by omega) high
          have low_eq := digitChar_injOn (Nat.mod_lt _ (by omega)) (Nat.mod_lt _ (by omega)) low
          have bytes : a.toNat = b.toNat := by omega
          rw [UInt8.toNat_inj.mp bytes, induction rest]

/-- A part that does not hold the separator ends at the first one. -/
theorem append_separator_inj {separator : Char} {left right : Text} (absent : separator ∉ left)
    (absent' : separator ∉ right) {back back' : Text}
    (same : left ++ separator :: back = right ++ separator :: back') :
    left = right ∧ back = back' := by
  have first := @breakAt_of_not_mem separator left (separator :: back) absent (by simp)
  have second := @breakAt_of_not_mem separator right (separator :: back') absent' (by simp)
  rw [same, second] at first
  obtain ⟨fronts, backs⟩ := Prod.mk.inj first
  exact ⟨fronts.symm, (List.cons.inj backs).2.symm⟩

end Foundation
