import Mathlib

/-!
# Consecutive ranges

A ledger of ranges that follow each other without a gap.  When the whole ledger
fits into a ring, the ring index of the last place of a range names the range.
-/

namespace Udma.Collections

universe u

variable {Alpha : Type u} {start width : Alpha → Nat}

/-- Two numbers of one window of length `ring` with the same residue are equal. -/
theorem eq_of_mod_eq_of_window {ring base first second : Nat}
    (same : first % ring = second % ring)
    (firstFrom : base ≤ first) (firstTo : first < base + ring)
    (secondFrom : base ≤ second) (secondTo : second < base + ring) : first = second := by
  obtain ⟨left, rfl⟩ := Nat.exists_eq_add_of_le firstFrom
  obtain ⟨right, rfl⟩ := Nat.exists_eq_add_of_le secondFrom
  have congruent : left % ring = right % ring := Nat.ModEq.add_left_cancel' base same
  rw [Nat.mod_eq_of_lt (by omega), Nat.mod_eq_of_lt (by omega)] at congruent
  omega

/-- The ranges of the list cover the places from `base` up to `limit`, in order. -/
def Consecutive (start width : Alpha → Nat) : Nat → List Alpha → Nat → Prop
  | base, [], limit => base = limit
  | base, head :: rest, limit =>
      start head = base ∧ 0 < width head ∧ Consecutive start width (base + width head) rest limit

/-- The last place of a range. -/
def lastOf (start width : Alpha → Nat) (item : Alpha) : Nat := start item + width item - 1

/-- An increasing key names the elements of a list. -/
theorem eq_of_increasing {key : Alpha → Nat} {list : List Alpha}
    (increasing : list.Pairwise fun earlier later => key earlier < key later)
    {first second : Alpha} (one : first ∈ list) (two : second ∈ list)
    (same : key first = key second) : first = second := by
  induction list with
  | nil => simp at one
  | cons head rest inductionHypothesis =>
      obtain ⟨headBefore, restIncreasing⟩ := List.pairwise_cons.mp increasing
      rcases List.mem_cons.mp one with rfl | oneLater
      · rcases List.mem_cons.mp two with rfl | twoLater
        · rfl
        · have := headBefore second twoLater
          omega
      · rcases List.mem_cons.mp two with rfl | twoLater
        · have := headBefore first oneLater
          omega
        · exact inductionHypothesis restIncreasing oneLater twoLater

namespace Consecutive

variable {base limit : Nat} {list : List Alpha}

theorem append_iff {first second : List Alpha} :
    Consecutive start width base (first ++ second) limit ↔
      ∃ middle, Consecutive start width base first middle ∧
        Consecutive start width middle second limit := by
  induction first generalizing base with
  | nil => simp [Consecutive]
  | cons head rest inductionHypothesis =>
      simp only [List.cons_append, Consecutive, inductionHypothesis]
      constructor
      · rintro ⟨starts, wide, middle, front, back⟩
        exact ⟨middle, ⟨starts, wide, front⟩, back⟩
      · rintro ⟨middle, ⟨starts, wide, front⟩, back⟩
        exact ⟨starts, wide, middle, front, back⟩

theorem append_single {item : Alpha} (ledger : Consecutive start width base list limit)
    (starts : start item = limit) (wide : 0 < width item) :
    Consecutive start width base (list ++ [item]) (limit + width item) :=
  append_iff.mpr ⟨limit, ledger, starts, wide, rfl⟩

theorem sum (ledger : Consecutive start width base list limit) :
    base + (list.map width).sum = limit := by
  induction list generalizing base with
  | nil => simpa [Consecutive] using ledger
  | cons head rest inductionHypothesis =>
      obtain ⟨_, _, tail⟩ := ledger
      have := inductionHypothesis tail
      simp only [List.map_cons, List.sum_cons]
      omega

/-- What remains when a part of the front is removed. -/
theorem drop {first second : List Alpha}
    (ledger : Consecutive start width base (first ++ second) limit) :
    Consecutive start width (base + (first.map width).sum) second limit := by
  obtain ⟨middle, front, back⟩ := append_iff.mp ledger
  rwa [front.sum]

theorem base_le_limit (ledger : Consecutive start width base list limit) : base ≤ limit := by
  have := ledger.sum
  omega

theorem mem_bounds (ledger : Consecutive start width base list limit) {item : Alpha}
    (membership : item ∈ list) :
    base ≤ start item ∧ 0 < width item ∧ start item + width item ≤ limit := by
  obtain ⟨first, second, rfl⟩ := List.append_of_mem membership
  obtain ⟨middle, front, starts, wide, back⟩ := append_iff.mp ledger
  have := front.base_le_limit
  have := back.base_le_limit
  omega

/-- A list with the same ranges is the same ledger. -/
theorem of_map_eq {other : List Alpha} (ledger : Consecutive start width base list limit)
    (starts : other.map start = list.map start) (widths : other.map width = list.map width) :
    Consecutive start width base other limit := by
  induction list generalizing base other with
  | nil =>
      obtain rfl : other = [] := by simpa using starts
      exact ledger
  | cons head rest inductionHypothesis =>
      cases other with
      | nil => simp at starts
      | cons first others =>
          simp only [List.map_cons, List.cons.injEq] at starts widths
          obtain ⟨startsHere, wide, tail⟩ := ledger
          refine ⟨starts.1.trans startsHere, widths.1 ▸ wide, ?_⟩
          rw [widths.1]
          exact inductionHypothesis tail starts.2 widths.2

theorem pairwise_last (ledger : Consecutive start width base list limit) :
    list.Pairwise fun earlier later =>
      lastOf start width earlier < lastOf start width later := by
  induction list generalizing base with
  | nil => exact .nil
  | cons head rest inductionHypothesis =>
      obtain ⟨starts, wide, tail⟩ := ledger
      refine .cons ?_ (inductionHypothesis tail)
      intro later membership
      obtain ⟨after, positive, _⟩ := tail.mem_bounds membership
      unfold lastOf
      omega

theorem pairwise_start (ledger : Consecutive start width base list limit) :
    list.Pairwise fun earlier later => start earlier < start later := by
  induction list generalizing base with
  | nil => exact .nil
  | cons head rest inductionHypothesis =>
      obtain ⟨starts, wide, tail⟩ := ledger
      refine .cons ?_ (inductionHypothesis tail)
      intro later membership
      obtain ⟨after, _, _⟩ := tail.mem_bounds membership
      omega

theorem eq_of_last_eq (ledger : Consecutive start width base list limit) {first second : Alpha}
    (one : first ∈ list) (two : second ∈ list)
    (same : lastOf start width first = lastOf start width second) : first = second :=
  eq_of_increasing ledger.pairwise_last one two same

theorem eq_of_start_eq (ledger : Consecutive start width base list limit) {first second : Alpha}
    (one : first ∈ list) (two : second ∈ list) (same : start first = start second) :
    first = second :=
  eq_of_increasing ledger.pairwise_start one two same

theorem nodup (ledger : Consecutive start width base list limit) : list.Nodup := by
  refine ledger.pairwise_last.imp ?_
  rintro earlier later increasing rfl
  exact Nat.lt_irrefl _ increasing

/-- In a ring that holds the whole ledger, the index of the last place is a name. -/
theorem eq_of_last_mod_eq (ledger : Consecutive start width base list limit) (ring : Nat)
    (fits : limit ≤ base + ring) {first second : Alpha}
    (one : first ∈ list) (two : second ∈ list)
    (same : lastOf start width first % ring = lastOf start width second % ring) :
    first = second := by
  apply ledger.eq_of_last_eq one two
  have firstBounds := ledger.mem_bounds one
  have secondBounds := ledger.mem_bounds two
  have firstNear : lastOf start width first < base + ring := by unfold lastOf; omega
  have secondNear : lastOf start width second < base + ring := by unfold lastOf; omega
  have firstFar : base ≤ lastOf start width first := by unfold lastOf; omega
  have secondFar : base ≤ lastOf start width second := by unfold lastOf; omega
  exact eq_of_mod_eq_of_window same firstFar firstNear secondFar secondNear

end Consecutive

end Udma.Collections
