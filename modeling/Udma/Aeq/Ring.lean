import Mathlib
import Udma.Abi.Words
import Udma.Aeq.Machine
import Udma.Collections.OwnerRing

/-!
# The ring of events

The slots of the queue hold the last events stored, with the owner bit of their lap; so a guest
that is at most one lap behind finds the events by the owner bits alone.
-/

namespace Udma.Aeq

open Udma.Abi Udma.Collections
open Udma.Control (load16 store16)

/-! ## Images -/

theorem load32_eventImage (owner : Bool) (sequence : UInt16) :
    (load32 (eventImage owner sequence) 0).testBit 31 = owner := by
  have header : load32 (eventImage owner sequence) 0 =
      load32 (store32 (if owner then 0x13 ||| (1 <<< 31) else 0x13)) 0 := by
    refine load32_congr fun index small => ?_
    simp only [eventImage, Nat.zero_add]
    rw [List.append_assoc, List.append_assoc, List.getD_append _ _ _ _ small]
  rw [header, load32_store32]
  cases owner <;> decide

theorem load16_eventImage (owner : Bool) (sequence : UInt16) :
    load16 (eventImage owner sequence) 12 = sequence.toNat := by
  have place : load16 (eventImage owner sequence) 12 = load16 (store16 sequence.toNat) 0 := rfl
  have bound := sequence.toNat_lt
  rw [place]
  refine Nat.eq_of_testBit_eq fun bit => ?_
  simp only [load16, store16, byteAt, List.getD_cons_zero, List.getD_cons_succ,
    UInt8.toNat_ofNat', Nat.testBit_or, Nat.testBit_shiftLeft, Nat.testBit_shiftRight,
    Nat.testBit_mod_two_pow]
  rcases Nat.lt_or_ge bit 16 with inside | outside
  · rcases Nat.lt_or_ge bit 8 with low | high
    · simp [low]
    · simp [Nat.not_lt.mpr high, high, Nat.add_sub_cancel' high, (by omega : bit - 8 < 8)]
  · have zero : sequence.toNat.testBit bit = false :=
      Nat.testBit_lt_two_pow (bound.trans_le (Nat.pow_le_pow_right (by decide) outside))
    suffices beyond : ¬ bit - 8 < 8 by simp [zero, beyond]
    omega

/-! ## The producer -/

/-- Whether the queue is there, and then that its depth is a power of two. -/
def Queue.Formed (queue : Queue) : Prop :=
  (queue.iova = 0 ∧ queue.depth = 0) ∨
    (queue.iova ≠ 0 ∧ ∃ shift < 26, queue.depth = 2 ^ (shift + 6))

namespace Queue

variable {queue : Queue}

theorem formed_cleared (queue : Queue) : queue.cleared.Formed := .inl ⟨rfl, rfl⟩

theorem formed_decode {tag : Nat} {context : Bytes}
    (checked : Control.acceptable .aeq tag context = true) : (decode context).Formed := by
  simp only [Control.acceptable, Bool.and_eq_true, decide_eq_true_eq, bne_iff_ne] at checked
  obtain ⟨small, there⟩ := checked
  exact .inr ⟨there, _, small, Nat.one_shiftLeft _⟩

theorem Formed.exists_depth (formed : queue.Formed) (usable : queue.usable = true) :
    ∃ shift < 32, queue.depth = 2 ^ shift := by
  rcases formed with ⟨absent, _⟩ | ⟨_, shift, small, deep⟩
  · simp [Queue.usable, absent] at usable
  · exact ⟨shift + 6, by omega, deep⟩

/-- Of a producer that counts the entries, the slot and the owner bit. -/
theorem slot_eq {shift count : Nat} (small : shift < 32) (deep : queue.depth = 2 ^ shift)
    (counts : queue.producer = count % 2 ^ 32) : queue.slot = count % queue.depth := by
  rw [slot, counts, deep, Nat.and_two_pow_sub_one_eq_mod]
  exact Nat.mod_mod_of_dvd _ (Nat.pow_dvd_pow 2 small.le)

theorem owner_eq {shift count : Nat} (small : shift < 32) (deep : queue.depth = 2 ^ shift)
    (counts : queue.producer = count % 2 ^ 32) :
    (queue.producer &&& queue.depth == 0) = evenLap queue.depth count := by
  rw [counts, deep, Nat.and_two_pow, Nat.testBit_mod_two_pow, evenLap,
    Nat.testBit_eq_decide_div_mod_eq]
  rcases Nat.mod_two_eq_zero_or_one (count / 2 ^ shift) with even | odd
  · simp [even]
  · simp [odd, small]

/-- Slots have addresses of their own. -/
theorem address_inj {slot other : Nat} (small : queue.depth ≤ 2 ^ 32)
    (inside : slot < queue.depth) (otherInside : other < queue.depth)
    (same : queue.address slot = queue.address other) : slot = other := by
  have equal := eq_of_mod_eq_of_window same (Nat.le_add_right queue.iova _) (by omega)
    (Nat.le_add_right queue.iova _) (by omega)
  omega

end Queue

/-! ## Reading -/

/-- The slots hold what the ring of the stored events says. -/
def State.Holds (state : State) : Prop :=
  ∀ slot < state.queue.depth, state.memory (state.queue.address slot) =
    (OwnerRing.filled state.queue.depth state.published slot).map fun placed =>
      eventImage placed.1 placed.2.sequence

theorem State.holds_install (state : State) (queue : Queue) : (state.install queue).Holds :=
  fun _ _ => rfl

/-- The guest, which has taken `taken` events, looks at the next slot; where nothing has been
stored, the ring is as the guest has cleared it before it asked for the queue. -/
def State.poll (state : State) (taken : Nat) : Option Nat :=
  (state.memory (state.queue.address (taken % state.queue.depth))).bind fun bytes =>
    if (load32 bytes 0).testBit 31 = evenLap state.queue.depth taken then
      some (load16 bytes 12)
    else none

theorem State.Holds.poll_eq {state : State} (holds : state.Holds) (positive : 0 < state.queue.depth)
    {taken : Nat} (behind : taken ≤ state.published.length)
    (lap : state.published.length ≤ taken + state.queue.depth) :
    state.poll taken = (state.published[taken]?).map fun pending => pending.sequence.toNat := by
  rw [← OwnerRing.read_filled positive behind lap, State.poll, OwnerRing.read,
    holds _ (Nat.mod_lt _ positive)]
  cases OwnerRing.filled state.queue.depth state.published (taken % state.queue.depth) with
  | none => rfl
  | some placed =>
      simp only [Option.map_some, Option.bind_some, load32_eventImage, load16_eventImage]
      split <;> rfl

end Udma.Aeq
