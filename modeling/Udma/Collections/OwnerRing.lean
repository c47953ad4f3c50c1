import Mathlib
import Udma.Collections.Consecutive

/-!
# Rings with an owner bit

Entries are written one behind the other into a ring of slots, each with a bit that says whether
its lap is an even one.  A reader that counts what it has taken needs no index of the writer:
the bit tells whether the next entry is there, as long as the writer is at most one lap ahead.
-/

namespace Udma.Collections

universe u

variable {Entry : Type u}

/-- The owner bit of an entry. -/
def evenLap (depth number : Nat) : Bool := number / depth % 2 == 0

theorem evenLap_add {depth : Nat} (positive : 0 < depth) (number : Nat) :
    evenLap depth (number + depth) = !evenLap depth number := by
  unfold evenLap
  rw [Nat.add_div_right _ positive, Nat.add_mod]
  rcases Nat.mod_two_eq_zero_or_one (number / depth) with even | odd
  · simp [even]
  · simp [odd]

/-- What was written last into each slot, with its owner bit. -/
abbrev OwnerRing (Entry : Type u) := Nat → Option (Bool × Entry)

namespace OwnerRing

/-- The ring in which the entries have been written from its start on. -/
def filled (depth : Nat) (entries : List Entry) : OwnerRing Entry :=
  entries.zipIdx.foldl
    (fun ring placed =>
      Function.update ring (placed.2 % depth) (some (evenLap depth placed.2, placed.1)))
    fun _ => none

/-- What a reader finds that has taken `taken` entries. -/
def read (depth : Nat) (ring : OwnerRing Entry) (taken : Nat) : Option Entry :=
  (ring (taken % depth)).bind fun slot =>
    if slot.1 = evenLap depth taken then some slot.2 else none

variable {depth : Nat} {entries : List Entry}

theorem filled_snoc (depth : Nat) (entries : List Entry) (entry : Entry) :
    filled depth (entries ++ [entry]) =
      Function.update (filled depth entries) (entries.length % depth)
        (some (evenLap depth entries.length, entry)) := by
  simp [filled, List.zipIdx_append]

/-- The entries of the last lap are in their slots. -/
theorem filled_newest {number : Nat} {entry : Entry} (found : entries[number]? = some entry)
    (lap : entries.length ≤ number + depth) :
    filled depth entries (number % depth) = some (evenLap depth number, entry) := by
  induction entries using List.reverseRecOn with
  | nil => simp at found
  | append_singleton entries last inductionHypothesis =>
      rw [filled_snoc]
      rw [List.length_append, List.length_singleton] at lap
      rcases Nat.lt_or_ge number entries.length with earlier | newest
      · have apart : number % depth ≠ entries.length % depth := by
          intro same
          have equal : number = entries.length :=
            eq_of_mod_eq_of_window same le_rfl (by omega) (by omega) (by omega)
          omega
        rw [Function.update_of_ne apart]
        rw [List.getElem?_append_left earlier] at found
        exact inductionHypothesis found (by omega)
      · have inside := (List.getElem?_eq_some_iff.mp found).1
        rw [List.length_append, List.length_singleton] at inside
        obtain rfl : number = entries.length := by omega
        rw [List.getElem?_concat_length, Option.some.injEq] at found
        rw [Function.update_self, found]

/-- A slot that the first lap has not reached is empty. -/
theorem filled_fresh {slot : Nat} (beyond : entries.length ≤ slot) (inside : slot < depth) :
    filled depth entries slot = none := by
  induction entries using List.reverseRecOn with
  | nil => rfl
  | append_singleton entries last inductionHypothesis =>
      rw [List.length_append, List.length_singleton] at beyond
      rw [filled_snoc, Nat.mod_eq_of_lt (by omega), Function.update_of_ne (by omega)]
      exact inductionHypothesis (by omega)

/-- A reader that is at most one lap behind finds the next entry, and nothing if there is
none. -/
theorem read_filled (positive : 0 < depth) {taken : Nat} (behind : taken ≤ entries.length)
    (lap : entries.length ≤ taken + depth) :
    read depth (filled depth entries) taken = entries[taken]? := by
  rcases Nat.lt_or_ge taken entries.length with there | all
  · have found : entries[taken]? = some entries[taken] := List.getElem?_eq_getElem there
    rw [read, filled_newest found lap, found]
    simp
  · obtain rfl : taken = entries.length := by omega
    rw [List.getElem?_eq_none le_rfl, read]
    rcases Nat.lt_or_ge entries.length depth with first | later
    · rw [Nat.mod_eq_of_lt first, filled_fresh le_rfl first]
      rfl
    · obtain ⟨number, same⟩ := Nat.exists_eq_add_of_le' later
      have inside : number < entries.length := by omega
      have found : entries[number]? = some entries[number] := List.getElem?_eq_getElem inside
      have slot := filled_newest found (by omega : entries.length ≤ number + depth)
      rw [same, Nat.add_mod_right, slot, evenLap_add positive]
      simp

end OwnerRing

end Udma.Collections
