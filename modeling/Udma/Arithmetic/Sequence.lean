import Mathlib

/-!
# Sequence numbers modulo `2 ^ 32`

Unsigned differences and the signed comparison by which a 32-bit counter is
advanced.  `sub32 value base` is how far a 32-bit `value` lies ahead of an
unbounded counter `base`; below `2 ^ 31` it behaves like an ordinary difference.
-/

namespace Udma.Arithmetic

/-- The 32-bit difference `left - right`. -/
def sub32 (left right : Nat) : Nat := (left + (2 ^ 32 - right % 2 ^ 32)) % 2 ^ 32

/-- The signed test `static_cast<int32_t>(left - right) > 0`. -/
def ahead32 (left right : Nat) : Bool :=
  0 < sub32 left right && sub32 left right < 2 ^ 31

/-- A difference below `2 ^ 32` is recovered exactly. -/
theorem sub32_add_mod (base delta : Nat) (small : delta < 2 ^ 32) :
    sub32 ((base + delta) % 2 ^ 32) base = delta := by
  unfold sub32
  omega

theorem add_sub32_mod (base value : Nat) :
    (base + sub32 value base) % 2 ^ 32 = value % 2 ^ 32 := by
  unfold sub32
  omega

/-- Moving the base forward by at most the difference shortens it by as much. -/
theorem sub32_advance (value base delta : Nat) (within : delta ≤ sub32 value base) :
    sub32 value (base + delta) = sub32 value base - delta := by
  unfold sub32 at within ⊢
  omega

/-- Replacing `value` by a later one lengthens the difference, as long as both
stay within half the range of the base. -/
theorem sub32_le_of_ahead (base value later : Nat)
    (advanced : ahead32 later value = true)
    (near : sub32 value base < 2 ^ 31) (still : sub32 later base < 2 ^ 31) :
    sub32 value base ≤ sub32 later base := by
  unfold ahead32 at advanced
  simp only [Bool.and_eq_true, decide_eq_true_eq] at advanced
  obtain ⟨positive, half⟩ := advanced
  unfold sub32 at *
  omega

@[simp]
theorem sub32_mod_base (value base : Nat) : sub32 value (base % 2 ^ 32) = sub32 value base := by
  unfold sub32
  rw [Nat.mod_mod]

theorem sub32_succ (value base : Nat) (small : sub32 value base + 1 < 2 ^ 32) :
    sub32 ((value + 1) % 2 ^ 32) base = sub32 value base + 1 := by
  unfold sub32 at *
  omega

theorem sub32_self (value : Nat) : sub32 value value = 0 := by
  unfold sub32
  omega

end Udma.Arithmetic
