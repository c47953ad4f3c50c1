import Mathlib

/-!
# A value that changes once in every interval

Time passes in ticks, and at the end of every interval the value changes.  Any number of ticks
is the changes of the whole intervals among them, so that they can be made up for later.
-/

namespace Udma.Transition

universe u

/-- A value, and how many ticks of the current interval have passed. -/
@[ext]
structure Clocked (Value : Type u) where
  value : Value
  phase : Nat

namespace Clocked

variable {Value : Type u} {interval : Nat} {change : Value → Value} {clocked : Clocked Value}

def tick (interval : Nat) (change : Value → Value) (clocked : Clocked Value) : Clocked Value :=
  if clocked.phase + 1 = interval then ⟨change clocked.value, 0⟩
  else ⟨clocked.value, clocked.phase + 1⟩

/-- The value at the beginning of an interval. -/
def fresh (value : Value) : Clocked Value := ⟨value, 0⟩

theorem iterate_tick (inside : clocked.phase < interval) (ticks : Nat) :
    (tick interval change)^[ticks] clocked =
      ⟨change^[(clocked.phase + ticks) / interval] clocked.value,
        (clocked.phase + ticks) % interval⟩ := by
  induction ticks with
  | zero => simp [Nat.div_eq_of_lt inside, Nat.mod_eq_of_lt inside]
  | succ ticks inductionHypothesis =>
      rw [Function.iterate_succ_apply', inductionHypothesis, tick]
      dsimp only
      have positive : 0 < interval := by omega
      have within := Nat.mod_lt (clocked.phase + ticks) positive
      have parts := Nat.div_add_mod (clocked.phase + ticks) interval
      split
      next last =>
        have whole : clocked.phase + (ticks + 1) =
            interval * ((clocked.phase + ticks) / interval + 1) := by
          rw [Nat.mul_add, Nat.mul_one]
          omega
        rw [whole, Nat.mul_div_cancel_left _ positive, Nat.mul_mod_right,
          Function.iterate_succ_apply']
      next more =>
        have rest : clocked.phase + (ticks + 1) =
            (clocked.phase + ticks) % interval + 1 +
              interval * ((clocked.phase + ticks) / interval) := by omega
        have small : (clocked.phase + ticks) % interval + 1 < interval := by omega
        have quotient : (clocked.phase + (ticks + 1)) / interval =
            (clocked.phase + ticks) / interval := by
          rw [rest, Nat.add_mul_div_left _ _ positive, Nat.div_eq_of_lt small, Nat.zero_add]
        have remainder : (clocked.phase + (ticks + 1)) % interval =
            (clocked.phase + ticks) % interval + 1 := by
          rw [rest, Nat.add_mul_mod_self_left, Nat.mod_eq_of_lt small]
        rw [quotient, remainder]

/-- From the beginning of an interval. -/
theorem iterate_tick_fresh (positive : 0 < interval) (value : Value) (ticks : Nat) :
    (tick interval change)^[ticks] (fresh value) =
      ⟨change^[ticks / interval] value, ticks % interval⟩ := by
  have ticked := @iterate_tick Value interval change (fresh value) positive ticks
  simpa only [fresh, Nat.zero_add] using ticked

/-- The whole intervals can be made up for first. -/
theorem iterate_tick_catchUp (positive : 0 < interval) (value : Value) (ticks : Nat) :
    (tick interval change)^[ticks] (fresh value) =
      (tick interval change)^[ticks % interval] (fresh (change^[ticks / interval] value)) := by
  have small := Nat.mod_lt ticks positive
  rw [iterate_tick_fresh positive, iterate_tick_fresh positive, Nat.div_eq_of_lt small,
    Nat.mod_mod]
  rfl

end Clocked

/-- Steps up to a cap. -/
theorem iterate_min_add {cap step value : Nat} (below : value ≤ cap) (steps : Nat) :
    (fun value => min cap (value + step))^[steps] value = min cap (value + steps * step) := by
  induction steps with
  | zero => simp [below]
  | succ steps inductionHypothesis =>
      rw [Function.iterate_succ_apply', inductionHypothesis, Nat.succ_mul]
      omega

end Udma.Transition
