import Mathlib

/-!
# Padded chunks in a keyed store

A list cut into chunks of fixed length, the last one filled up with a default
value, and a store whose cells are written one after another.
-/

namespace Udma.Collections

variable {Alpha Key Value : Type*}

/-! ## Padding -/

theorem takeD_eq_append (size : Nat) (values : List Alpha) (filler : Alpha) :
    values.takeD size filler =
      values.take size ++ List.replicate (size - values.length) filler := by
  induction size generalizing values with
  | zero => simp
  | succ size inductionHypothesis =>
      cases values with
      | nil => simp [List.replicate_succ]
      | cons value rest =>
          rw [List.takeD_succ, List.tail_cons, inductionHypothesis]
          simp

theorem takeD_add (first second : Nat) (values : List Alpha) (filler : Alpha) :
    values.takeD (first + second) filler =
      values.takeD first filler ++ (values.drop first).takeD second filler := by
  induction first generalizing values with
  | zero => simp
  | succ first inductionHypothesis =>
      rw [Nat.succ_add, List.takeD_succ, List.takeD_succ, inductionHypothesis]
      cases values <;> simp

/-- Cutting at `size` leaves the whole list in front of the padding exactly when it fits. -/
theorem takeD_padded_iff (size : Nat) (values : List Alpha) (filler : Alpha) :
    (∃ padding, values.takeD size filler = values ++ List.replicate padding filler) ↔
      values.length ≤ size := by
  constructor
  · rintro ⟨padding, same⟩
    have lengths := congrArg List.length same
    rw [List.takeD_length, List.length_append] at lengths
    omega
  · intro fits
    exact ⟨size - values.length, by rw [takeD_eq_append, List.take_of_length_le fits]⟩

/-! ## A keyed store -/

variable [DecidableEq Key]

def writeAll (store : Key → Value) (writes : List (Key × Value)) : Key → Value :=
  writes.foldl (fun current write => Function.update current write.1 write.2) store

theorem writeAll_of_notMem {writes : List (Key × Value)} {key : Key}
    (absent : key ∉ writes.map Prod.fst) (store : Key → Value) :
    writeAll store writes key = store key := by
  induction writes generalizing store with
  | nil => rfl
  | cons write rest inductionHypothesis =>
      rw [List.map_cons, List.mem_cons, not_or] at absent
      exact (inductionHypothesis absent.2 _).trans (Function.update_of_ne absent.1 ..)

/-- What was written to a key is what is read there, when every key is written once. -/
theorem map_writeAll {writes : List (Key × Value)} (once : (writes.map Prod.fst).Nodup)
    (store : Key → Value) :
    (writes.map Prod.fst).map (writeAll store writes) = writes.map Prod.snd := by
  induction writes generalizing store with
  | nil => rfl
  | cons write rest inductionHypothesis =>
      rw [List.map_cons, List.nodup_cons] at once
      have kept := writeAll_of_notMem once.1 (Function.update store write.1 write.2)
      rw [Function.update_self] at kept
      rw [List.map_cons, List.map_cons, List.map_cons]
      exact congrArg₂ List.cons kept (inductionHypothesis once.2 _)

end Udma.Collections
