import Mathlib

/-!
# Updating the first match of a list

`std::find_if` followed by an assignment through the iterator.
-/

namespace Udma.Collections

universe u v

variable {Alpha : Type u} {Beta : Type v}

/-- Apply `update` to the first element that satisfies `test`. -/
def markFirst (test : Alpha → Bool) (update : Alpha → Alpha) : List Alpha → List Alpha
  | [] => []
  | head :: rest =>
      if test head then update head :: rest else head :: markFirst test update rest

variable {test : Alpha → Bool} {update : Alpha → Alpha}

theorem markFirst_append {earlier later : List Alpha} {found : Alpha}
    (skipped : ∀ item ∈ earlier, test item = false) (hit : test found = true) :
    markFirst test update (earlier ++ found :: later) = earlier ++ update found :: later := by
  induction earlier with
  | nil => simp [markFirst, hit]
  | cons head rest inductionHypothesis =>
      have miss : test head = false := skipped head (by simp)
      have restSkipped : ∀ item ∈ rest, test item = false := fun item membership =>
        skipped item (by simp [membership])
      simp [markFirst, miss, inductionHypothesis restSkipped]

theorem eraseP_append {earlier later : List Alpha} {found : Alpha}
    (skipped : ∀ item ∈ earlier, test item = false) (hit : test found = true) :
    (earlier ++ found :: later).eraseP test = earlier ++ later := by
  rw [List.eraseP_append_right _ (by simpa using skipped)]
  simp [hit]

/-- A search result splits the list at the first match. -/
theorem split_of_find {list : List Alpha} {found : Alpha}
    (search : list.find? test = some found) :
    ∃ earlier later, list = earlier ++ found :: later ∧
      (∀ item ∈ earlier, test item = false) ∧ test found = true := by
  obtain ⟨hit, earlier, later, shape, skipped⟩ := List.find?_eq_some_iff_append.mp search
  exact ⟨earlier, later, shape, by simpa using skipped, hit⟩

/-- An update that keeps a projection keeps the projected list. -/
theorem map_markFirst {project : Alpha → Beta}
    (keeps : ∀ item, project (update item) = project item) (list : List Alpha) :
    (markFirst test update list).map project = list.map project := by
  induction list with
  | nil => rfl
  | cons head rest inductionHypothesis =>
      unfold markFirst
      split
      · simp [keeps]
      · simp [inductionHypothesis]

end Udma.Collections
