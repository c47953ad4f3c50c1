import Udma.Sq.Owners

/-!
# One terminal event for each descriptor

`CompleteSq` is called by whoever owns the entry of a descriptor, and an owner is
gone once it has called.  Descriptors are told apart by the position at which they
were reserved: ring indices are reused, positions are not.
-/

namespace Udma.Sq

open Udma.Abi Udma.Arithmetic Udma.Collections Udma.Transition

def Observation.endedPosition : Observation → Option Nat
  | .completed _ request _ _ => some request.position
  | _ => none

attribute [simp] Observation.endedPosition

/-- The positions for which `CompleteSq` was called. -/
def endedIn (trace : List Observation) : List Nat := gather Observation.endedPosition trace

theorem endedIn_retired (trace : List Observation) (id : Nat) (entries : List SqCompletion) :
    endedIn (trace ++ entries.map fun front => .retired id front.request) = endedIn trace := by
  have none : endedIn (entries.map fun front => .retired id front.request) = [] :=
    gather_eq_nil.mpr (by simp)
  unfold endedIn at none ⊢
  rw [gather_append, none, List.append_nil]

namespace Ledger

structure Ended (ledger : Ledger) : Prop where
  waiting : ∀ request ∈ ledger.owners, request.position ∉ endedIn ledger.history
  below : ∀ position ∈ endedIn ledger.history, position < ledger.issue
  once : (endedIn ledger.history).Nodup

variable {pipelined : Bool} {id : Nat} {tardy lossy : Prop} {ledger next : Ledger}

theorem Ended.keep (ended : ledger.Ended) (owners : next.owners ⊆ ledger.owners)
    (issue : next.issue = ledger.issue)
    (history : endedIn next.history = endedIn ledger.history) : next.Ended := by
  refine ⟨?_, ?_, ?_⟩
  · intro request owner
    rw [history]
    exact ended.waiting request (owners owner)
  · rw [history, issue]
    exact ended.below
  · rw [history]
    exact ended.once

/-- Owners are told apart by their positions. -/
theorem Owned.position_ne (owned : ledger.Owned) (ring : ledger.Ring) {request other : SqRequest}
    {owners : Multiset SqRequest} (held : ledger.owners = request ::ₘ owners)
    (elsewhere : other ∈ owners) : other.position ≠ request.position := by
  intro same
  obtain ⟨first, one, rfl, _⟩ := owned.opened request (by simp [held])
  obtain ⟨second, two, rfl, _⟩ := owned.opened other (by simp [held, elsewhere])
  have equal : second = first := ring.consecutive.eq_of_start_eq two one same
  have distinct := owned.distinct
  rw [held, Multiset.nodup_cons] at distinct
  exact distinct.1 (equal ▸ elsewhere)

theorem Ended.complete (ended : ledger.Ended) (ring : ledger.Ring) (owned : ledger.Owned)
    {request : SqRequest} {status substatus : Nat} {owners : Multiset SqRequest}
    (held : ledger.owners = request ::ₘ owners) (remaining : next.owners = owners)
    (issue : next.issue = ledger.issue)
    (history : next.history = ledger.history ++ [.completed id request status substatus]) :
    next.Ended := by
  have extended : endedIn next.history = endedIn ledger.history ++ [request.position] := by
    simp [history, endedIn]
  have fresh := ended.waiting request (by simp [held])
  refine ⟨?_, ?_, ?_⟩
  · intro other owner
    rw [remaining] at owner
    have unseen := ended.waiting other (by simp [held, owner])
    have different := owned.position_ne ring held owner
    simp [extended, unseen, different]
  · intro position membership
    rw [extended, List.mem_append, List.mem_singleton] at membership
    rw [issue]
    rcases membership with old | rfl
    · exact ended.below position old
    · obtain ⟨entry, known, rfl, _⟩ := owned.opened request (by simp [held])
      have bounds := ring.consecutive.mem_bounds known
      simp only [SqCompletion.position] at bounds
      omega
  · rw [extended, List.nodup_append]
    refine ⟨ended.once, by simp, ?_⟩
    rintro position old _ new rfl
    rw [List.mem_singleton] at new
    exact fresh (new ▸ old)

theorem Step.ended (step : Step pipelined id tardy lossy ledger next) (ring : ledger.Ring)
    (owned : ledger.Owned) (punctual : ¬ tardy) (ended : ledger.Ended) : next.Ended := by
  cases step with
  | same => exact ended
  | vanish targets demands finishers owners empty idle fewerTargets fewerDemands
      fewerFinishers fewer => exact ended.keep (Multiset.subset_of_le fewer) rfl rfl
  | create | merge | capture | direct | forget | take | release | keep | abort =>
      exact ended.keep (Multiset.Subset.refl _) rfl rfl
  | reserve request alone clear wide placed =>
      have history : endedIn (ledger.history ++ [.reserved id request]) =
          endedIn ledger.history := by
        simp [endedIn]
      refine ⟨?_, ?_, ?_⟩
      · intro other owner
        dsimp only
        rw [history]
        rcases Multiset.mem_cons.mp owner with rfl | elsewhere
        · intro twice
          have := ended.below _ twice
          omega
        · exact ended.waiting other elsewhere
      · intro position membership
        dsimp only at membership ⊢
        rw [history] at membership
        have := ended.below position membership
        omega
      · dsimp only
        rw [history]
        exact ended.once
  | late request allowed => exact absurd allowed punctual
  | lose request owners held allowed =>
      refine ended.keep ?_ rfl rfl
      rw [held]
      exact Multiset.subset_cons _ _
  | ignore request status substatus owners held =>
      exact ended.complete ring owned held rfl rfl rfl
  | complete request status substatus owners entry held =>
      exact ended.complete ring owned held rfl rfl rfl
  | publish front | publishNext front =>
      refine ended.keep (Multiset.Subset.refl _) rfl ?_
      unfold SqCompletion.submission
      split <;> simp [endedIn]
  | report => exact ended.keep (Multiset.Subset.refl _) rfl (by simp [endedIn])
  | pop | retire =>
      refine ended.keep (Multiset.Subset.refl _) rfl ?_
      rw [endedIn_retired]

end Ledger

/-! ## Runs -/

theorem ended_of_reaches {config : Config} {id : Nat} {state : State}
    (reached : Reaches (step config) (Punctual id) (State.initial config) state) :
    (state.lane id).ledger.Ended := by
  refine ledger_of_reaches id Ledger.Ended reached ?_ ?_
  · refine ⟨?_, ?_, ?_⟩ <;> simp [Lane.ledger, endedIn]
  · intro before event after earlier allowed ended step
    obtain ⟨ring, _, _⟩ := ring_of_reaches id (fun _ _ _ allowed => allowed.1) earlier
    have owned := owned_of_reaches id (fun _ _ _ allowed => allowed.1)
      (fun _ _ _ allowed => allowed.2) earlier
    exact step.ended ring owned (by simp [allowed.2]) ended

theorem endedIn_history (trace : List Observation) :
    endedIn (gather Observation.entered trace) = endedIn trace := by
  unfold endedIn gather
  rw [List.filterMap_filterMap]
  congr 1
  funext observation
  cases observation <;> rfl

/-- The descriptors of a Jetty are completed at most once, and each call that is about to
run marks the entry of its own descriptor or none. -/
structure CompletedOnce (state : State) (id : Nat) : Prop where
  once : (endedIn (state.trace.filter (Observation.on id))).Nodup
  fresh : ∀ request status substatus rest,
    state.stack = .completeSq id request status substatus :: rest →
      request.position ∉ endedIn (state.trace.filter (Observation.on id))
  own : ∀ request status substatus rest,
    state.stack = .completeSq id request status substatus :: rest →
      ∀ jetty, state.jetty id = some jetty →
        ∀ entry ∈ jetty.pipe.completions.find? request.names, entry.request = request

theorem completed_once {config : Config} {id : Nat} {state : State}
    (reached : Reaches (step config) (Punctual id) (State.initial config) state) :
    CompletedOnce state id := by
  have ended := ended_of_reaches reached
  obtain ⟨ring, _, _⟩ := ring_of_reaches id (fun _ _ _ allowed => allowed.1) reached
  have owned := owned_of_reaches id (fun _ _ _ allowed => allowed.1)
    (fun _ _ _ allowed => allowed.2) reached
  have history : endedIn (state.lane id).ledger.history =
      endedIn (state.trace.filter (Observation.on id)) := endedIn_history _
  have owner : ∀ {request status substatus rest},
      state.stack = .completeSq id request status substatus :: rest →
        request ∈ (state.lane id).ledger.owners := by
    intro request status substatus rest top
    simp [Lane.ledger, State.lane, top]
  refine ⟨history ▸ ended.once, ?_, ?_⟩
  · intro request status substatus rest top
    rw [← history]
    exact ended.waiting request (owner top)
  · intro request status substatus rest top jetty existing entry found
    obtain rfl := state.lane_jetty id existing
    obtain ⟨opened, known, rfl, _⟩ := owned.opened request (owner top)
    have own := ring.find_names known
    rw [show (state.lane id).ledger.entries = (state.lane id).jetty.pipe.completions from rfl,
      Option.mem_def.mp found, Option.some.injEq] at own
    rw [own]

/-- A WRITE and a READ have been completed. -/
theorem write_and_read_completed_once :
    ∃ state, Reaches (step (.small false)) (Punctual 9) (State.initial (.small false)) state ∧
      endedIn state.trace = [0, 1] ∧ CompletedOnce state 9 := by
  let write := SqWqe.image true 0 0 3 1 0x8000 ⟨4, 0, 0x8000⟩
  let read := SqWqe.image false 0 0 6 1 0x8000 ⟨4, 0, 0x8000⟩
  let events : List Event := opening 9 0 ++ [.doorbell 9 1] ++ runs 7 ++
    [.fire 0 true write] ++ runs 10 ++ [.fire 0 true [1, 2, 3, 4]] ++ runs 7 ++
    [.receive { operation := .writeAck, requestId := 1, transferLength := 4 }] ++ runs 9 ++
    [.fire 0 true [], .doorbell 9 2] ++ runs 7 ++ [.fire 0 true read] ++ runs 10 ++
    [.fire 0 false []] ++ runs 1
  obtain ⟨state, reached, seen⟩ := exists_of_execute
    (show (execute (step (.small false)) (Punctual 9) events (State.initial (.small false))).map
      (fun state => endedIn state.trace) = some [0, 1] by decide +kernel)
  exact ⟨state, reached, seen, completed_once reached⟩

/-- The network reports that a WRITE was not sent after its reply has completed it. -/
theorem late_failure_completes_twice :
    ¬ ∀ state : State,
      Reaches (step (.small false)) (InWindow 9) (State.initial (.small false)) state →
      CompletedOnce state 9 := by
  intro completed
  let write := SqWqe.image true 0 0 3 1 0x8000 ⟨4, 0, 0x8000⟩
  let events : List Event := opening 9 0 ++ [.doorbell 9 1] ++ runs 7 ++
    [.fire 0 true write] ++ runs 10 ++ [.fire 0 true [1, 2, 3, 4]] ++ runs 7 ++
    [.receive { operation := .writeAck, requestId := 1, transferLength := 4 }] ++ runs 9 ++
    [.fire 0 false []] ++ runs 1
  obtain ⟨state, reached, seen⟩ := exists_of_execute
    (show (execute (step (.small false)) (InWindow 9) events (State.initial (.small false))).map
      (fun state => endedIn (state.trace.filter (Observation.on 9))) = some [0, 0] by
        decide +kernel)
  have once := (completed state reached).once
  rw [seen] at once
  exact absurd once (by decide)

end Udma.Sq
