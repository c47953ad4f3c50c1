import Mathlib
import Udma.Abi
import Udma.Collections.Overwrite

/-!
# Words of a byte list

What is read at an offset after a word was stored there, or elsewhere.
-/

namespace Udma.Abi

open Udma.Collections

theorem load32_store32 (value : Nat) : load32 (store32 value) 0 = value % 2 ^ 32 := by
  refine Nat.eq_of_testBit_eq ?_
  intro bit
  simp only [load32, byteAt, store32, List.getD_cons_zero, List.getD_cons_succ,
    UInt8.toNat_ofNat', Nat.testBit_or, Nat.testBit_shiftLeft, Nat.testBit_shiftRight,
    Nat.testBit_mod_two_pow]
  grind

/-- A word depends on its four bytes. -/
theorem load32_congr {bytes other : Bytes} {offset place : Nat}
    (same : ∀ index < 4, bytes.getD (offset + index) 0 = other.getD (place + index) 0) :
    load32 bytes offset = load32 other place := by
  have first := same 0 (by decide)
  have second := same 1 (by decide)
  have third := same 2 (by decide)
  have fourth := same 3 (by decide)
  rw [Nat.add_zero, Nat.add_zero] at first
  unfold load32 byteAt
  rw [first, second, third, fourth]

theorem load32_overwrite {bytes : Bytes} {offset value : Nat}
    (inside : offset + 4 ≤ bytes.length) :
    load32 (overwrite bytes offset (store32 value)) offset = value % 2 ^ 32 := by
  rw [← load32_store32]
  refine load32_congr ?_
  intro index small
  have width : (store32 value).length = 4 := rfl
  rw [overwrite_inside 0 (by omega) (by omega) (by omega), Nat.add_sub_cancel_left,
    Nat.zero_add]

theorem load32_overwrite_apart {bytes : Bytes} {offset place value : Nat}
    (apart : place + 4 ≤ offset ∨ offset + 4 ≤ place) :
    load32 (overwrite bytes offset (store32 value)) place = load32 bytes place := by
  refine load32_congr fun index small => ?_
  have width : (store32 value).length = 4 := rfl
  rw [overwrite_outside 0 (by omega)]

end Udma.Abi
