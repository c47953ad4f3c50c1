import Mathlib

/-!
# Half-open intervals in increasing order

A sorted list of intervals without overlap is maintained by looking at the two
neighbours of the place of insertion, and covers a range of numbers as soon as
the lengths add up to the length of the range.
-/

namespace Udma.Collections

/-- Intervals `[first, last)`, none empty, each behind the one before it. -/
structure Separated (ranges : List (Nat × Nat)) : Prop where
  positive : ∀ range ∈ ranges, range.1 < range.2
  ordered : ranges.Pairwise fun earlier later => earlier.2 ≤ later.1

/-- Two intervals without a common number. -/
def Apart (one two : Nat × Nat) : Prop := one.2 ≤ two.1 ∨ two.2 ≤ one.1

theorem Apart.symm {one two : Nat × Nat} (apart : Apart one two) : Apart two one :=
  Or.symm apart

def total (ranges : List (Nat × Nat)) : Nat :=
  (ranges.map fun range => range.2 - range.1).sum

@[simp] theorem total_nil : total [] = 0 := rfl

@[simp] theorem total_cons (range : Nat × Nat) (rest : List (Nat × Nat)) :
    total (range :: rest) = (range.2 - range.1) + total rest := by
  simp [total]

theorem total_perm {first second : List (Nat × Nat)} (same : first.Perm second) :
    total first = total second :=
  (same.map _).sum_nat

/-- Every number from `lower` up to `upper` is in one of the intervals. -/
def Covers (ranges : List (Nat × Nat)) (lower upper : Nat) : Prop :=
  ∀ number, lower ≤ number → number < upper →
    ∃ range ∈ ranges, range.1 ≤ number ∧ number < range.2

namespace Separated

variable {ranges : List (Nat × Nat)} {range : Nat × Nat} {lower upper : Nat}

theorem nil : Separated [] := ⟨by simp, .nil⟩

theorem tail (separated : Separated (range :: ranges)) : Separated ranges :=
  ⟨fun other membership => separated.positive other (List.mem_cons_of_mem _ membership),
    (List.pairwise_cons.mp separated.ordered).2⟩

theorem apart (separated : Separated ranges) : ranges.Pairwise Apart :=
  separated.ordered.imp Or.inl

theorem total_le (separated : Separated ranges) (above : ∀ range ∈ ranges, lower ≤ range.1)
    (below : ∀ range ∈ ranges, range.2 ≤ upper) (bounds : lower ≤ upper) :
    lower + total ranges ≤ upper := by
  induction ranges generalizing lower with
  | nil => simpa using bounds
  | cons range rest inductionHypothesis =>
      have positive := separated.positive range List.mem_cons_self
      have first := above range List.mem_cons_self
      have last := below range List.mem_cons_self
      have behind := (List.pairwise_cons.mp separated.ordered).1
      have := inductionHypothesis separated.tail behind
        (fun other membership => below other (List.mem_cons_of_mem _ membership)) last
      rw [total_cons]
      omega

theorem covers_iff (separated : Separated ranges) (above : ∀ range ∈ ranges, lower ≤ range.1)
    (below : ∀ range ∈ ranges, range.2 ≤ upper) (bounds : lower ≤ upper) :
    Covers ranges lower upper ↔ lower + total ranges = upper := by
  induction ranges generalizing lower with
  | nil =>
      constructor
      · intro covers
        by_contra short
        obtain ⟨range, membership, _⟩ := covers lower (Nat.le_refl _) (by simp at short; omega)
        simp at membership
      · intro level number first last
        simp at level
        omega
  | cons range rest inductionHypothesis =>
      have positive := separated.positive range List.mem_cons_self
      have first := above range List.mem_cons_self
      have last := below range List.mem_cons_self
      have behind := (List.pairwise_cons.mp separated.ordered).1
      have inside : ∀ other ∈ rest, other.2 ≤ upper :=
        fun other membership => below other (List.mem_cons_of_mem _ membership)
      have remaining := inductionHypothesis separated.tail behind inside last
      have bound := separated.tail.total_le behind inside last
      rw [total_cons]
      constructor
      · intro covers
        -- the first number can only be in the first interval
        have start : range.1 = lower := by
          obtain ⟨hit, membership, low, high⟩ := covers lower (Nat.le_refl _) (by omega)
          rcases List.mem_cons.mp membership with rfl | later
          · omega
          · have := behind hit later
            omega
        have rest_covers : Covers rest range.2 upper := by
          intro number low high
          obtain ⟨hit, membership, start, stop⟩ := covers number (by omega) high
          rcases List.mem_cons.mp membership with rfl | later
          · omega
          · exact ⟨hit, later, start, stop⟩
        have := remaining.mp rest_covers
        omega
      · intro level number low high
        by_cases early : number < range.2
        · exact ⟨range, List.mem_cons_self, by omega, early⟩
        · obtain ⟨hit, membership, found⟩ := remaining.mpr (by omega) number (by omega) high
          exact ⟨hit, List.mem_cons_of_mem _ membership, found⟩

/-- An interval that leaves its two neighbours alone leaves all others alone. -/
theorem insert {first last : Nat} (separated : Separated ranges) (positive : first < last)
    (next : ∀ range ∈ (ranges.dropWhile fun range => decide (range.1 < first)).head?,
      last ≤ range.1)
    (previous : ∀ range ∈ (ranges.takeWhile fun range => decide (range.1 < first)).getLast?,
      range.2 ≤ first) :
    Separated ((ranges.takeWhile fun range => decide (range.1 < first)) ++
      (first, last) :: ranges.dropWhile fun range => decide (range.1 < first)) := by
  generalize lowerShape : (ranges.takeWhile fun range => decide (range.1 < first)) = lower at *
  generalize upperShape : (ranges.dropWhile fun range => decide (range.1 < first)) = upper at *
  have parts : lower ++ upper = ranges := by
    rw [← lowerShape, ← upperShape]
    exact List.takeWhile_append_dropWhile
  rw [← parts] at separated
  obtain ⟨lowerOrdered, upperOrdered, across⟩ := List.pairwise_append.mp separated.ordered
  have ends : ∀ range ∈ lower, range.2 ≤ first := by
    intro range membership
    rcases lower.eq_nil_or_concat' with rfl | ⟨initial, final, rfl⟩
    · simp at membership
    · have stop := previous final (by simp)
      rcases List.mem_append.mp membership with early | last
      · have before := (List.pairwise_append.mp lowerOrdered).2.2 range early final (by simp)
        have := separated.positive final (by simp)
        omega
      · obtain rfl : range = final := by simpa using last
        exact stop
  have starts : ∀ range ∈ upper, last ≤ range.1 := by
    intro range membership
    cases upper with
    | nil => simp at membership
    | cons front rest =>
        have start := next front (by simp)
        rcases List.mem_cons.mp membership with rfl | later
        · exact start
        · have before := (List.pairwise_cons.mp upperOrdered).1 range later
          have := separated.positive front (by simp)
          omega
  refine ⟨?_, ?_⟩
  · intro range membership
    rcases List.mem_append.mp membership with early | rest
    · exact separated.positive range (List.mem_append_left _ early)
    · rcases List.mem_cons.mp rest with rfl | late
      · exact positive
      · exact separated.positive range (List.mem_append_right _ late)
  · rw [List.pairwise_append, List.pairwise_cons]
    refine ⟨lowerOrdered, ⟨starts, upperOrdered⟩, ?_⟩
    intro early one later membership
    rcases List.mem_cons.mp membership with rfl | late
    · exact ends early one
    · exact across early one later late

end Separated

end Udma.Collections
