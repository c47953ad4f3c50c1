import Mathlib

/-!
# Withdrawing one element of a list

The callback at an index leaves the list of outstanding ones.
-/

namespace Udma.Collections

universe u

variable {Alpha : Type u} {list : List Alpha} {index : Nat} {item : Alpha}

/-- The list around the element that was withdrawn. -/
theorem split_eraseIdx (held : list[index]? = some item) :
    ∃ earlier later, list = earlier ++ item :: later ∧
      list.eraseIdx index = earlier ++ later := by
  obtain ⟨inside, rfl⟩ := List.getElem?_eq_some_iff.mp held
  refine ⟨list.take index, list.drop (index + 1), ?_, List.eraseIdx_eq_take_drop_succ list index⟩
  rw [List.getElem_cons_drop, List.take_append_drop]

theorem perm_cons_eraseIdx (held : list[index]? = some item) :
    list.Perm (item :: list.eraseIdx index) := by
  obtain ⟨inside, rfl⟩ := List.getElem?_eq_some_iff.mp held
  exact (List.getElem_cons_eraseIdx_perm inside).symm

/-- A selection does not notice that an element it does not take is gone. -/
theorem filter_eraseIdx {test : Alpha → Bool} (held : list[index]? = some item)
    (skipped : test item = false) : (list.eraseIdx index).filter test = list.filter test := by
  obtain ⟨earlier, later, shape, erased⟩ := split_eraseIdx held
  rw [erased, shape, List.filter_append, List.filter_append,
    List.filter_cons_of_neg (Bool.eq_false_iff.mp skipped)]

theorem eq_of_length_le_one {first second : Alpha} (short : list.length ≤ 1)
    (one : first ∈ list) (two : second ∈ list) : first = second := by
  match list, short with
  | [], _ => simp at one
  | [only], _ => exact (List.mem_singleton.mp one).trans (List.mem_singleton.mp two).symm

variable {Beta : Type u} {read : Alpha → Option Beta} {value : Beta}

theorem filterMap_singleton (read : Alpha → Option Beta) (item : Alpha) :
    [item].filterMap read = (read item).toList := by
  cases found : read item <;> simp [found]

theorem filterMap_eraseIdx_none (held : list[index]? = some item) (blind : read item = none) :
    (list.eraseIdx index).filterMap read = list.filterMap read := by
  obtain ⟨earlier, later, shape, erased⟩ := split_eraseIdx held
  rw [erased, shape, List.filterMap_append, List.filterMap_append,
    List.filterMap_cons_none blind]

theorem filterMap_eraseIdx_some (held : list[index]? = some item) (found : read item = some value) :
    ∃ earlier later, list.filterMap read = earlier ++ value :: later ∧
      (list.eraseIdx index).filterMap read = earlier ++ later := by
  obtain ⟨earlier, later, shape, erased⟩ := split_eraseIdx held
  refine ⟨earlier.filterMap read, later.filterMap read, ?_, ?_⟩
  · rw [shape, List.filterMap_append, List.filterMap_cons_some found]
  · rw [erased, List.filterMap_append]

end Udma.Collections
