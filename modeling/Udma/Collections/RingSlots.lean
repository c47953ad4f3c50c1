import Mathlib
import Udma.Collections.Consecutive

/-!
# Consecutive slots of a ring

The slots that `count` blocks occupy from `origin` on, and to which of several
consecutive groups of blocks each of them belongs.
-/

namespace Udma.Collections

/-- The slots of `count` blocks in a ring of `depth` slots. -/
def ringSlots (depth origin count : Nat) : List Nat :=
  (List.range count).map fun block => (origin + block) % depth

variable {depth origin : Nat}

theorem ringSlots_length (depth origin count : Nat) :
    (ringSlots depth origin count).length = count := by
  simp [ringSlots]

theorem ringSlots_append (depth origin first second : Nat) :
    ringSlots depth origin (first + second) =
      ringSlots depth origin first ++ ringSlots depth (origin + first) second := by
  unfold ringSlots
  rw [List.range_add, List.map_append, List.map_map]
  congr 1
  refine List.map_congr_left ?_
  intro block _
  simp [Nat.add_assoc]

theorem ringSlots_succ (depth origin count : Nat) :
    ringSlots depth origin (count + 1) = origin % depth :: ringSlots depth (origin + 1) count := by
  rw [Nat.add_comm count 1, ringSlots_append]
  simp [ringSlots]

/-- Only the place in the ring matters. -/
theorem ringSlots_congr {other : Nat} (count : Nat) (same : origin % depth = other % depth) :
    ringSlots depth origin count = ringSlots depth other count := by
  refine List.map_congr_left ?_
  intro block _
  rw [Nat.add_mod, same, ← Nat.add_mod]

/-- The blocks of one lap are in different slots. -/
theorem ringSlots_window_nodup (depth origin count start : Nat) :
    (((ringSlots depth origin count).drop start).take depth).Nodup := by
  rw [List.Nodup, List.pairwise_iff_getElem]
  intro first second firstInside secondInside order same
  simp only [List.length_take, List.length_drop, ringSlots_length] at firstInside secondInside
  simp only [ringSlots, List.getElem_take, List.getElem_drop, List.getElem_map,
    List.getElem_range] at same
  have lower : origin + start ≤ origin + (start + first) := by omega
  have equal : origin + (start + first) = origin + (start + second) :=
    eq_of_mod_eq_of_window same lower (by omega) (by omega) (by omega)
  omega

/-- The group of each block, when the groups have `counts` blocks and are numbered from
`first` on. -/
def groups (first : Nat) : List Nat → List Nat
  | [] => []
  | count :: rest => List.replicate count first ++ groups (first + 1) rest

theorem groups_append_single (first : Nat) (counts : List Nat) (count : Nat) :
    groups first (counts ++ [count]) =
      groups first counts ++ List.replicate count (first + counts.length) := by
  induction counts generalizing first with
  | nil => simp [groups]
  | cons head rest inductionHypothesis =>
      rw [List.cons_append, groups, groups, inductionHypothesis, List.append_assoc]
      congr 3
      simp only [List.length_cons]
      omega

theorem groups_length (first : Nat) (counts : List Nat) :
    (groups first counts).length = counts.sum := by
  induction counts generalizing first with
  | nil => rfl
  | cons head rest inductionHypothesis =>
      rw [groups, List.length_append, inductionHypothesis, List.length_replicate, List.sum_cons]

end Udma.Collections
