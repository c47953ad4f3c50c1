import Mathlib

/-!
# Tilings

A range of offsets cut into pieces, each an offset and a size, that follow each other
without a gap.
-/

namespace Udma.Collections

variable {Alpha : Type*}

def Tiling : Nat → List (Nat × Nat) → Nat → Prop
  | first, [], last => first = last
  | first, piece :: rest, last => piece.1 = first ∧ Tiling (first + piece.2) rest last

/-- The part of a list that a piece covers. -/
def cut (values : List Alpha) (piece : Nat × Nat) : List Alpha :=
  (values.drop piece.1).take piece.2

/-- A list with the part that a piece covers replaced. -/
def splice (values : List Alpha) (piece : Nat × Nat) (data : List Alpha) : List Alpha :=
  values.take piece.1 ++ data ++ values.drop (piece.1 + piece.2)

section Splice

variable {values data : List Alpha} {piece other : Nat × Nat}

theorem splice_length (inside : piece.1 + piece.2 ≤ values.length)
    (size : data.length = piece.2) : (splice values piece data).length = values.length := by
  simp only [splice, List.length_append, List.length_take, List.length_drop]
  omega

theorem cut_splice_same (inside : piece.1 + piece.2 ≤ values.length)
    (size : data.length = piece.2) : cut (splice values piece data) piece = data := by
  have front : (values.take piece.1).length = piece.1 := by
    rw [List.length_take]
    omega
  unfold cut splice
  rw [List.append_assoc, List.drop_left' front, List.take_left' size]

theorem cut_splice_apart (inside : piece.1 + piece.2 ≤ values.length)
    (size : data.length = piece.2)
    (apart : piece.1 + piece.2 ≤ other.1 ∨ other.1 + other.2 ≤ piece.1) :
    cut (splice values piece data) other = cut values other := by
  refine List.ext_getElem? ?_
  intro index
  unfold cut splice
  rw [List.getElem?_take, List.getElem?_take]
  split
  · rename_i within
    rw [List.getElem?_drop, List.getElem?_drop]
    rcases apart with behind | before
    · rw [List.getElem?_append_right (by simp only [List.length_append, List.length_take]; omega),
        List.getElem?_drop]
      congr 1
      simp only [List.length_append, List.length_take]
      omega
    · rw [List.append_assoc, List.getElem?_append_left (by rw [List.length_take]; omega),
        List.getElem?_take_of_lt (by omega)]
  · rfl

end Splice

namespace Tiling

variable {first last : Nat} {pieces : List (Nat × Nat)}

theorem append (tiling : Tiling first pieces last) (size : Nat) :
    Tiling first (pieces ++ [(last, size)]) (last + size) := by
  induction pieces generalizing first with
  | nil =>
      cases tiling
      exact ⟨rfl, rfl⟩
  | cons piece rest inductionHypothesis => exact ⟨tiling.1, inductionHypothesis tiling.2⟩

theorem le (tiling : Tiling first pieces last) : first ≤ last := by
  induction pieces generalizing first with
  | nil => exact Nat.le_of_eq tiling
  | cons piece rest inductionHypothesis =>
      exact Nat.le_trans (Nat.le_add_right _ _) (inductionHypothesis tiling.2)

theorem lower (tiling : Tiling first pieces last) {piece : Nat × Nat} (member : piece ∈ pieces) :
    first ≤ piece.1 := by
  induction pieces generalizing first with
  | nil => cases member
  | cons head rest inductionHypothesis =>
      rcases List.mem_cons.mp member with rfl | later
      · exact Nat.le_of_eq tiling.1.symm
      · exact Nat.le_trans (Nat.le_add_right _ _) (inductionHypothesis tiling.2 later)

/-- Each piece ends where the later ones begin, or before. -/
theorem ordered (tiling : Tiling first pieces last) :
    pieces.Pairwise fun left right => left.1 + left.2 ≤ right.1 := by
  induction pieces generalizing first with
  | nil => exact .nil
  | cons piece rest inductionHypothesis =>
      refine .cons ?_ (inductionHypothesis tiling.2)
      intro other later
      rw [tiling.1]
      exact tiling.2.lower later

/-- The parts of a list that the pieces cover are the part that the range covers. -/
theorem flatten_cut (tiling : Tiling first pieces last) (values : List Alpha) :
    (pieces.map (cut values)).flatten = (values.drop first).take (last - first) := by
  induction pieces generalizing first with
  | nil =>
      cases tiling
      simp
  | cons piece rest inductionHypothesis =>
      obtain ⟨rfl, later⟩ := tiling
      have order := later.le
      have split : last - piece.1 = piece.2 + (last - (piece.1 + piece.2)) := by omega
      rw [List.map_cons, List.flatten_cons, inductionHypothesis later, split, List.take_add,
        List.drop_drop]
      rfl

end Tiling

end Udma.Collections
