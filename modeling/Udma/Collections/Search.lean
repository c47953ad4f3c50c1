import Mathlib

/-!
# The first match

The first result that a partial function has on a list, and on the numbers below a
bound.
-/

namespace Udma.Collections

variable {Alpha Beta : Type*}

theorem findSome_congr {values : List Alpha} {first second : Alpha → Option Beta}
    (same : ∀ value ∈ values, first value = second value) :
    values.findSome? first = values.findSome? second := by
  induction values with
  | nil => rfl
  | cons value rest inductionHypothesis =>
      rw [List.findSome?_cons, List.findSome?_cons, same value (by simp),
        inductionHypothesis fun other member => same other (by simp [member])]

/-- The first number below a bound that has a result. -/
theorem findSome_range_eq_some_iff {bound : Nat} {result : Nat → Option Beta} {value : Beta} :
    (List.range bound).findSome? result = some value ↔
      ∃ number < bound, result number = some value ∧
        ∀ other < number, result other = none := by
  induction bound with
  | zero => simp
  | succ bound inductionHypothesis =>
      rw [List.range_succ, List.findSome?_append, Option.or_eq_some_iff, inductionHypothesis,
        List.findSome?_eq_none_iff]
      simp only [List.mem_range, List.findSome?_cons, List.findSome?_nil]
      constructor
      · rintro (⟨number, small, found, earlier⟩ | ⟨earlier, found⟩)
        · exact ⟨number, Nat.lt_succ_of_lt small, found, earlier⟩
        · refine ⟨bound, Nat.lt_succ_self bound, ?_, earlier⟩
          split at found
          · rename_i here
            rw [here, found]
          · cases found
      · rintro ⟨number, small, found, earlier⟩
        rcases Nat.lt_succ_iff_lt_or_eq.mp small with below | rfl
        · exact .inl ⟨number, below, found, earlier⟩
        · exact .inr ⟨earlier, by rw [found]⟩

end Udma.Collections
