import Mathlib

/-!
# Overwriting part of a list

The values from an offset on are replaced; what would lie behind the end of the list
is dropped, so that the length never changes.
-/

namespace Udma.Collections

variable {Alpha : Type*}

def overwrite (values : List Alpha) (offset : Nat) (field : List Alpha) : List Alpha :=
  values.mapIdx fun index value =>
    if offset ≤ index then field.getD (index - offset) value else value

variable (values : List Alpha) (offset : Nat) (field : List Alpha)

@[simp]
theorem overwrite_length : (overwrite values offset field).length = values.length :=
  List.length_mapIdx

variable {values offset field} {index : Nat}

theorem overwrite_inside (filler : Alpha) (inside : index < values.length)
    (lower : offset ≤ index) (upper : index < offset + field.length) :
    (overwrite values offset field).getD index filler = field.getD (index - offset) filler := by
  have fieldInside : index - offset < field.length := by omega
  rw [List.getD_eq_getElem _ _ (by rwa [overwrite_length]), List.getD_eq_getElem _ _ fieldInside]
  simp [overwrite, lower, fieldInside]

theorem overwrite_outside (filler : Alpha)
    (outside : index < offset ∨ offset + field.length ≤ index) :
    (overwrite values offset field).getD index filler = values.getD index filler := by
  by_cases inside : index < values.length
  · rw [List.getD_eq_getElem _ _ (by rwa [overwrite_length]), List.getD_eq_getElem _ _ inside]
    simp only [overwrite, List.getElem_mapIdx]
    rcases outside with before | behind
    · rw [if_neg (Nat.not_le.mpr before)]
    · rw [if_pos (by omega), List.getD_eq_default _ _ (by omega)]
  · rw [List.getD_eq_default _ _ (by rw [overwrite_length]; omega),
      List.getD_eq_default _ _ (by omega)]

theorem overwrite_eq_splice (inside : offset + field.length ≤ values.length) :
    overwrite values offset field =
      values.take offset ++ field ++ values.drop (offset + field.length) := by
  have width : (values.take offset).length = offset := by
    rw [List.length_take]
    omega
  refine List.ext_getElem (by simp; omega) fun index left right => ?_
  have filler := (overwrite values offset field)[index]
  rw [← List.getD_eq_getElem _ filler left, ← List.getD_eq_getElem _ filler right]
  rw [overwrite_length] at left
  by_cases lower : offset ≤ index
  · by_cases upper : index < offset + field.length
    · rw [overwrite_inside filler left lower upper, List.append_assoc,
        List.getD_append_right _ _ _ _ (by omega), List.getD_append _ _ _ _ (by omega), width]
    · rw [overwrite_outside filler (.inr (Nat.not_lt.mp upper)),
        List.getD_append_right _ _ _ _ (by rw [List.length_append]; omega),
        List.getD_eq_getElem?_getD, List.getD_eq_getElem?_getD, List.getElem?_drop]
      congr 2
      rw [List.length_append]
      omega
  · have before : index < offset := Nat.not_le.mp lower
    rw [overwrite_outside filler (.inl before), List.append_assoc,
      List.getD_append _ _ _ _ (by omega), List.getD_eq_getElem?_getD,
      List.getD_eq_getElem?_getD, List.getElem?_take_of_lt before]

end Udma.Collections
