import Mathlib

/-!
# Tallies and selections

How many elements of a list pass a test, and what a partial function makes of its
elements.  `tally` and `gather` are `List.countP` and `List.filterMap` kept opaque
to `simp`, so that ownership counts stay linear arithmetic instead of turning into
membership statements and selections unfold one element at a time.
-/

namespace Udma.Collections

universe u v

variable {Alpha : Type u} {test : Alpha → Bool}

def tally (test : Alpha → Bool) (list : List Alpha) : Nat := list.countP test

@[simp, grind =] theorem tally_nil : tally test [] = 0 := rfl

@[simp, grind =] theorem tally_cons (head : Alpha) (rest : List Alpha) :
    tally test (head :: rest) = (test head).toNat + tally test rest := by
  unfold tally
  rw [List.countP_cons]
  cases test head
  · simp
  · simp [Nat.add_comm]

@[simp, grind =] theorem tally_append (first second : List Alpha) :
    tally test (first ++ second) = tally test first + tally test second :=
  List.countP_append

theorem tally_perm {first second : List Alpha} (same : first.Perm second) :
    tally test first = tally test second :=
  same.countP_eq test

theorem tally_mono {wider : Alpha → Bool} (implies : ∀ item, test item = true → wider item = true)
    (list : List Alpha) : tally test list ≤ tally wider list :=
  List.countP_mono_left fun item _ => implies item

theorem tally_pos_of_mem {list : List Alpha} {item : Alpha} (membership : item ∈ list)
    (passes : test item = true) : 0 < tally test list :=
  List.countP_pos_iff.mpr ⟨item, membership, passes⟩

theorem exists_of_tally_pos {list : List Alpha} (positive : 0 < tally test list) :
    ∃ item ∈ list, test item = true :=
  List.countP_pos_iff.mp positive

section Gather

variable {Beta : Type v} {select : Alpha → Option Beta}

def gather (select : Alpha → Option Beta) (list : List Alpha) : List Beta :=
  list.filterMap select

@[simp] theorem gather_nil : gather select [] = [] := rfl

@[simp] theorem gather_cons (head : Alpha) (rest : List Alpha) :
    gather select (head :: rest) = (select head).toList ++ gather select rest := by
  unfold gather
  cases selected : select head <;> simp [selected]

@[simp] theorem gather_append (first second : List Alpha) :
    gather select (first ++ second) = gather select first ++ gather select second :=
  List.filterMap_append

theorem mem_gather {list : List Alpha} {value : Beta} :
    value ∈ gather select list ↔ ∃ item ∈ list, select item = some value :=
  List.mem_filterMap

theorem gather_eq_nil {list : List Alpha} :
    gather select list = [] ↔ ∀ item ∈ list, select item = none :=
  List.filterMap_eq_nil_iff

/-- An element that is not selected may be deleted. -/
theorem gather_eraseIdx {list : List Alpha} {index : Nat} {item : Alpha}
    (held : list[index]? = some item) (unselected : select item = none) :
    gather select (list.eraseIdx index) = gather select list := by
  obtain ⟨inside, rfl⟩ := List.getElem?_eq_some_iff.mp held
  have shape : list = list.take index ++ list[index] :: list.drop (index + 1) := by
    rw [List.getElem_cons_drop, List.take_append_drop]
  conv => rhs; rw [shape]
  rw [List.eraseIdx_eq_take_drop_succ, gather_append, gather_append, gather_cons, unselected]
  rfl

theorem gather_perm {first second : List Alpha} (same : first.Perm second) :
    (gather select first).Perm (gather select second) :=
  same.filterMap select

end Gather

end Udma.Collections
