import Mathlib
import Udma.Aeq.Events

/-!
# Events are delivered

What the invariant says of every run: each event asked for is completed once and in order, the
queue is not destroyed under a write, and the guest reads the events in the order of the commands.
-/

namespace Udma.Aeq

open Udma.Abi Udma.Transition
open Udma.Control (Job)

/-! ## Completion -/

/-- Events are completed one at a time, each once, in the order of the commands.  When the host
holds no callback no event waits and no destroy of the queue either, and the command queue is free
unless the destroy of another resource waits for that. -/
theorem aeq_completes {state : State} (reached : Reaches step always {} state) :
    state.emitted = state.completed.map Prod.fst ++ state.flying ++ state.mailboxEvents ∧
      state.emitted.Nodup ∧ state.flying.length ≤ 1 ∧
        (state.outstanding = [] →
          state.completed.map Prod.fst = state.emitted ∧ state.pendingEqDestroy = none ∧
            state.ubaseBusy = state.deferredDestroy.isSome) := by
  have sound := sound_of_reaches reached
  refine ⟨sound.row, ?_, ?_, ?_⟩
  · refine List.Nodup.of_map Pending.number ?_
    rw [sound.numbers]
    exact List.nodup_range
  · rw [sound.flight]
    exact sound.single
  · intro quiet
    have landed : state.flying = [] := by
      rw [State.flying, quiet]
      rfl
    have free : state.aeqInFlight = 0 := by
      rw [← sound.flight, landed]
      rfl
    obtain ⟨_, waiting, undrained⟩ := sound.idle free
    refine ⟨?_, undrained, ?_⟩
    · rw [sound.row, landed, waiting, List.append_nil, List.append_nil]
    · have holders := sound.holders
      rw [State.holders, quiet, undrained] at holders
      cases deferred : state.deferredDestroy with
      | some job => exact sound.busy_of_deferred deferred
      | none =>
          rw [deferred] at holders
          exact Bool.toNat_eq_zero.mp holders.symm

/-! ## Destruction -/

/-- A write in flight goes into the next slot of the queue that there is, so none outlives its
queue.  A destroy of the queue that waits keeps the command queue: no other command is under way or
waits, and the event that it waits for is in flight. -/
theorem aeq_write_owned {state : State} (reached : Reaches step always {} state) :
    (∀ pending address bytes,
      Callback.eventWritten pending address bytes ∈ state.outstanding →
        state.queue.usable = true ∧ address = state.queue.address state.queue.slot) ∧
    (state.queue.usable = false → state.flying = []) ∧
    (state.pendingEqDestroy.isSome →
      state.ubaseBusy = true ∧ state.flying.length = 1 ∧ state.deferredDestroy = none ∧
        ∀ callback ∈ state.outstanding, callback.command = false) := by
  have sound := sound_of_reaches reached
  refine ⟨fun pending address bytes here => ?_, fun absent => ?_, fun draining => ?_⟩
  · obtain ⟨usable, place, _⟩ := sound.writes _ _ _ here
    exact ⟨usable, place⟩
  · rw [State.flying, List.filterMap_eq_nil_iff]
    intro callback here
    cases callback with
    | contextRead job => rfl
    | recordWritten status after => rfl
    | eventWritten pending address bytes =>
        rw [(sound.writes _ _ _ here).1] at absent
        cases absent
    | interruptRaised vector pending =>
        rw [(sound.stored _ _ here).1] at absent
        cases absent
  · have holders := sound.holders
    obtain ⟨job, waits⟩ := Option.isSome_iff_exists.mp draining
    have bound := Bool.toNat_le state.ubaseBusy
    rw [State.holders, waits, Option.toList_some, List.length_singleton] at holders
    refine ⟨Bool.toNat_eq_one.mp (by omega), sound.flight.trans (sound.draining draining), ?_, ?_⟩
    · rw [← Option.toList_eq_nil_iff, ← List.length_eq_zero_iff]
      omega
    · intro callback here
      have none : state.outstanding.countP Callback.command = 0 := by omega
      exact Bool.eq_false_iff.mpr (List.countP_eq_zero.mp none callback here)

/-! ## Reading -/

theorem published_sublist {held : Nat} {state : State} (sound : Sound held state) :
    state.published.Sublist (state.emitted.drop state.created) := by
  refine sound.order.trans ?_
  rw [sound.row, List.append_assoc, List.drop_append_of_le_length]
  · exact ((raising_sublist state).trans (List.sublist_append_left _ _)).append_left _
  · rw [List.length_map]
    exact sound.created

/-- A guest that is at most one lap behind reads the events of the queue one after the other and
finds nothing behind the last.  They are events asked for since the queue was created, in order,
and all those among them that were completed without an error. -/
theorem aeq_read {state : State} (reached : Reaches step always {} state)
    (usable : state.queue.usable = true) {taken : Nat} (behind : taken ≤ state.published.length)
    (lap : state.published.length ≤ taken + state.queue.depth) :
    state.poll taken =
        (state.published[taken]?).map (fun pending => pending.sequence.toNat) ∧
      state.published.Sublist (state.emitted.drop state.created) ∧
      ∀ done ∈ state.completed.drop state.created,
        done.2 = true → done.1 ∈ state.published := by
  have sound := sound_of_reaches reached
  obtain ⟨shift, _, deep⟩ := sound.formed.exists_depth usable
  have positive : 0 < state.queue.depth := by
    rw [deep]
    exact Nat.two_pow_pos _
  exact ⟨sound.ring.poll_eq positive behind lap, published_sublist sound, sound.told⟩

/-! ## A queue that is created and destroyed -/

/-- A mailbox command that asks for an event. -/
def mailboxCommand (command : UInt8) (sequence : Nat) : Job :=
  ⟨store32 0x10007000 ++ store32 0 ++ store32 0x80000 ++ store32 0 ++ [command, 0, 0, 0] ++
    store32 (sequence ||| (1 <<< 16)) ++ store64 0, 1⟩

/-- The context of a queue of 64 slots. -/
def aeqContext : Bytes := store64 0 ++ store64 0x90000 ++ store64 0 ++ store64 1 ++
  List.replicate 32 0

def createEvents : List Event :=
  [.command (mailboxCommand 0x34 0x1234) 0 false, .answer 0 true aeqContext, .answer 0 true []]

/-- The queue is created and destroyed, and then the destroy of a CEQ waits. -/
theorem aeq_completes_destroyed :
    ∃ state, Reaches step always {} state ∧ state.emitted.length = 2 ∧
      state.completed.map Prod.fst = state.emitted ∧ state.pendingEqDestroy = none ∧
        state.ubaseBusy = true := by
  obtain ⟨state, reached, seen⟩ := exists_of_execute
    (show (execute step always (createEvents ++
      [.command (mailboxCommand 0x37 0x1235) 0 false, .answer 0 true [], .answer 0 true [],
        .answer 0 true [], .command (mailboxCommand 0x47 0x1236) 0 true]) {}).map (fun state =>
          (state.outstanding, state.emitted.length, state.deferredDestroy.isSome)) =
            some ([], 2, true) by decide +kernel)
  simp only [Prod.mk.injEq] at seen
  obtain ⟨quiet, two, deferred⟩ := seen
  obtain ⟨all, undrained, busy⟩ := (aeq_completes reached).2.2.2 quiet
  exact ⟨state, reached, two, all, undrained, busy.trans deferred⟩

theorem aeq_write_owned_draining :
    ∃ state, Reaches step always {} state ∧ state.pendingEqDestroy.isSome ∧
      state.ubaseBusy = true ∧ state.flying.length = 1 := by
  obtain ⟨state, reached, draining⟩ := exists_of_execute
    (show (execute step always
        (createEvents ++ [.command (mailboxCommand 0x37 0x1235) 0 false]) {}).map
      (fun state => state.pendingEqDestroy.isSome) = some true by decide +kernel)
  obtain ⟨busy, one, _⟩ := (aeq_write_owned reached).2.2 draining
  exact ⟨state, reached, draining, busy, one⟩

theorem aeq_read_first :
    ∃ state, Reaches step always {} state ∧ state.poll 0 = some 0x1234 := by
  obtain ⟨state, reached, seen⟩ := exists_of_execute
    (show (execute step always (createEvents ++ [.answer 0 true []]) {}).map (fun state =>
      (state.queue.usable, state.queue.depth, state.published)) =
        some (true, 64, [⟨0, 0x1234⟩]) by decide +kernel)
  simp only [Prod.mk.injEq] at seen
  obtain ⟨usable, deep, published⟩ := seen
  have lap : state.published.length ≤ 0 + state.queue.depth := by
    rw [published, deep]
    decide
  refine ⟨state, reached, ?_⟩
  rw [(aeq_read reached usable (Nat.zero_le _) lap).1, published]
  rfl

end Udma.Aeq
