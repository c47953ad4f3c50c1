import Mathlib
import Udma.Collections.Tally

/-!
# Selections without order

What a partial function makes of the elements of a list, as a multiset: for the
things a list holds when only the number of each matters.
-/

namespace Udma.Collections

universe u v

variable {Alpha : Type u} {Beta : Type v} {select : Alpha → Option Beta}

def bag (select : Alpha → Option Beta) (list : List Alpha) : Multiset Beta :=
  (gather select list : List Beta)

@[simp] theorem bag_nil : bag select [] = 0 := rfl

@[simp] theorem bag_cons (head : Alpha) (rest : List Alpha) :
    bag select (head :: rest) = ((select head).toList : Multiset Beta) + bag select rest := by
  simp [bag]

@[simp] theorem bag_append (first second : List Alpha) :
    bag select (first ++ second) = bag select first + bag select second := by
  simp [bag]

/-- Single elements are moved to the front. -/
@[simp] theorem add_single (rest : Multiset Beta) (value : Beta) :
    rest + {value} = value ::ₘ rest := by
  rw [Multiset.add_comm, Multiset.singleton_add]

theorem bag_perm {first second : List Alpha} (same : first.Perm second) :
    bag select first = bag select second :=
  Multiset.coe_eq_coe.mpr (gather_perm same)

/-- A change that the selection does not see. -/
theorem bag_map {change : Alpha → Alpha} (unseen : ∀ item, select (change item) = select item)
    (list : List Alpha) : bag select (list.map change) = bag select list := by
  induction list with
  | nil => rfl
  | cons head rest inductionHypothesis => simp [inductionHypothesis, unseen head]

theorem mem_bag {list : List Alpha} {value : Beta} :
    value ∈ bag select list ↔ ∃ item ∈ list, select item = some value := by
  rw [bag, Multiset.mem_coe, mem_gather]

/-- A selection has as many elements as pass the test of being selected. -/
theorem card_bag (test : Alpha → Bool) (selected : ∀ item, (select item).isSome = test item)
    (list : List Alpha) : Multiset.card (bag select list) = tally test list := by
  induction list with
  | nil => rfl
  | cons head rest inductionHypothesis =>
      rw [bag_cons, tally_cons, Multiset.card_add, inductionHypothesis, ← selected head]
      cases select head <;> simp

end Udma.Collections
