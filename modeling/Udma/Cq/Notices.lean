import Udma.Cq.Commands

/-!
# Timers, arms and notices

What decides when a JFC notifies: its moderation count, period, counter and deadline, and
whether it is armed.  Most steps leave all of them alone and enqueue no completion event.
-/

namespace Udma.Cq

open Udma.Abi Udma.Arithmetic Udma.Collections Udma.Transition

/-- The moderation fields of a JFC. -/
structure Timer where
  count : Nat
  period : Nat
  pending : Nat
  deadline : Nat
  deriving DecidableEq, Repr

def Jfc.timer (jfc : Jfc) : Timer :=
  ⟨jfc.moderationCount, jfc.moderationPeriod, jfc.pendingCompletions, jfc.moderationDeadline⟩

def State.timer (state : State) (id : Nat) : Option Timer := (state.jfcs.lookup id).map Jfc.timer

def State.armed (state : State) (id : Nat) : Bool := (state.armedJfcs.lookup id).getD false

/-- What the trace records of arms and enqueued events. -/
def Observation.notice : Observation → Bool
  | .armed _ | .enqueued _ _ => true
  | _ => false

def noticesOf (trace : List Observation) : List Observation := trace.filter Observation.notice

/-- A step that changes no timer and no arm and enqueues no event. -/
structure Unnoticed (state after : State) : Prop where
  timer : after.timer = state.timer
  armed : after.armedJfcs = state.armedJfcs
  mappings : after.jfcCeqs = state.jfcCeqs
  trace : noticesOf after.trace = noticesOf state.trace

theorem State.timer_setJfc (state : State) (id : Nat) (jfc : Jfc) :
    (state.setJfc id jfc).timer = Function.update state.timer id (some jfc.timer) := by
  funext other
  by_cases same : other = id
  · subst same
    simp [State.timer]
  · simp [State.timer, AList.lookup_insert_ne same, Function.update_of_ne same]

/-- A change of a JFC outside its timer. -/
theorem State.timer_setJfc_same {state : State} {id : Nat} {old new : Jfc}
    (found : state.jfcs.lookup id = some old) (timer : new.timer = old.timer) :
    (state.setJfc id new).timer = state.timer := by
  have own : state.timer id = some old.timer := by simp [State.timer, found]
  rw [State.timer_setJfc, timer, ← own, Function.update_eq_self]

namespace Unnoticed

variable {state changed after : State}

theorem refl (state : State) : Unnoticed state state := ⟨rfl, rfl, rfl, rfl⟩

theorem trans (first : Unnoticed state changed) (second : Unnoticed changed after) :
    Unnoticed state after where
  timer := second.timer.trans first.timer
  armed := second.armed.trans first.armed
  mappings := second.mappings.trans first.mappings
  trace := second.trace.trans first.trace

theorem then_push (unnoticed : Unnoticed state changed) (tasks : List Task) :
    Unnoticed state (changed.push tasks) := { unnoticed with }

theorem then_call (unnoticed : Unnoticed state changed) (callback : Callback) :
    Unnoticed state (changed.call callback) := { unnoticed with }

theorem then_emit (unnoticed : Unnoticed state changed) {observations : List Observation}
    (silent : ∀ observation ∈ observations, observation.notice = false) :
    Unnoticed state (changed.emit observations) :=
  { unnoticed with
    trace := by
      have none : noticesOf observations = [] :=
        List.filter_eq_nil_iff.mpr fun observation membership => by
          simp [silent observation membership]
      rw [← unnoticed.trace, State.emit_trace, noticesOf, List.filter_append]
      exact (congrArg _ none).trans (List.append_nil _) }

end Unnoticed

/-! ## Publications -/

section Functions

variable {config : Config} {state after : State}

theorem reserveCqe_unnoticed {id : Nat} {jfc : Jfc} (consumer : Nat)
    (found : state.jfcs.lookup id = some jfc) :
    Unnoticed state (reserveCqe config state id jfc consumer) := by
  unfold reserveCqe
  split <;> exact { Unnoticed.refl state with timer := State.timer_setJfc_same found rfl }

theorem publish_unnoticed (config : Config) (state : State) (ticket id : Nat)
    (publication : Publication) (consumer : Option Nat) :
    Unnoticed state (publish config state ticket id publication consumer) := by
  unfold publish
  split
  next found =>
    split
    next => exact (Unnoticed.refl state).then_push _
    next =>
      exact ((reserveCqe_unnoticed _ found).then_emit (by simp [Observation.notice])).then_call _
  next => exact (Unnoticed.refl state).then_push _

theorem writeCqeNow_unnoticed (config : Config) (state : State) (ticket id : Nat)
    (publication : Publication) :
    Unnoticed state (writeCqeNow config state ticket id publication) := by
  unfold writeCqeNow
  split
  next => exact (Unnoticed.refl state).then_push _
  next =>
    split
    next => exact publish_unnoticed config state ticket id publication _
    next => exact (Unnoticed.refl state).then_call _

theorem settleCqe_unnoticed {id : Nat} {jfc : Jfc} (left : Nat)
    (found : state.jfcs.lookup id = some jfc) : Unnoticed state (settleCqe state id jfc left) :=
  { Unnoticed.refl state with timer := State.timer_setJfc_same found rfl }

theorem admitJfcPublications_unnoticed (config : Config) (state : State) (id : Nat) :
    Unnoticed state (admitJfcPublications config state id) := by
  unfold admitJfcPublications
  split
  next => exact Unnoticed.refl state
  next queue _ =>
    split
    next => exact (Unnoticed.refl state).then_push _
    next publication rest _ =>
      split
      next =>
        have granted : Unnoticed state (grant config state id queue publication rest) := by
          refine Unnoticed.then_push (Unnoticed.then_emit ?_ (by simp [Observation.notice])) _
          exact { Unnoticed.refl state with }
        exact granted.trans (writeCqeNow_unnoticed config _ _ _ _)
      next => exact (Unnoticed.refl state).then_push _

theorem writeCqe_unnoticed (state : State) (id : Nat) (cqe : Cqe) :
    Unnoticed state (writeCqe state id cqe) := by
  have called (publication : Publication) : Unnoticed state
      ({ state with calls := state.calls + 1 }.emit [.called id publication]) := by
    refine Unnoticed.then_emit ?_ (by simp [Observation.notice])
    exact { Unnoticed.refl state with }
  unfold writeCqe
  simp only
  split
  next => exact (called _).then_push _
  next =>
    refine Unnoticed.then_push (Unnoticed.then_emit ?_ (by simp [Observation.notice])) _
    exact { called _ with }

/-! ## The pump and the events -/

theorem dispatchCompletionEvents_unnoticed (state : State) :
    Unnoticed state (dispatchCompletionEvents state) := by
  have left : Unnoticed state (leaveCompletionEvents state) := { Unnoticed.refl state with }
  unfold dispatchCompletionEvents
  split
  next => exact left
  next =>
    split
    next => exact left
    next =>
      simp only
      split
      next => exact { Unnoticed.refl state with }
      next =>
        refine Unnoticed.then_call (Unnoticed.then_emit ?_ (by simp [Observation.notice])) _
        exact { Unnoticed.refl state with }

theorem ceqeWritten_unnoticed (state : State) (ticket ceqId : Nat) (ok : Bool) :
    Unnoticed state (ceqeWritten state ticket ceqId ok) := by
  unfold ceqeWritten
  simp only
  split
  next =>
    refine Unnoticed.then_emit ?_ (by simp [Observation.notice])
    exact { Unnoticed.refl state with }
  next => split <;> exact { Unnoticed.refl state with }

/-- Activations that change no timer and no arm. -/
def Task.unnoticed : Task → Bool
  | .pumpTimers _ | .emitCompletionEvent _ _ | .maybeCompleteJfcDestroy
  | .maybeCompleteEqDestroy => false
  | _ => true

theorem runTask_unnoticed {task : Task} (other : task.unnoticed = true)
    (ran : runTask config state task = some after) : Unnoticed state after := by
  cases task with
  | external =>
      obtain rfl := Option.some.inj ran
      exact Unnoticed.refl state
  | pumpCompletionWork =>
      obtain rfl := Option.some.inj ran
      unfold pumpCompletionWork
      split <;> exact { Unnoticed.refl state with }
  | pumpPass => simp [runTask] at ran
  | pumpQueues ids =>
      obtain rfl := Option.some.inj ran
      unfold pumpQueues
      split
      next => split <;> exact { Unnoticed.refl state with }
      next => exact (Unnoticed.refl state).then_push _
  | processJfcPublications id =>
      obtain rfl := Option.some.inj ran
      unfold processJfcPublications
      split
      next => exact Unnoticed.refl state
      next => split <;> exact { Unnoticed.refl state with }
  | admitJfcPublications id =>
      obtain rfl := Option.some.inj ran
      exact admitJfcPublications_unnoticed config state id
  | leaveJfcPublications id =>
      obtain rfl := Option.some.inj ran
      unfold leaveJfcPublications
      split
      next => exact Unnoticed.refl state
      next => split <;> exact { Unnoticed.refl state with }
  | releasePublication id =>
      obtain rfl := Option.some.inj ran
      unfold releasePublication
      split <;> exact { Unnoticed.refl state with }
  | complete call ok =>
      obtain rfl := Option.some.inj ran
      exact ((Unnoticed.refl state).then_emit (by simp [Observation.notice])).then_push _
  | releaseCompletionEventSlot ticket =>
      obtain rfl := Option.some.inj ran
      refine Unnoticed.then_push (Unnoticed.then_emit ?_ (by simp [Observation.notice])) _
      exact { Unnoticed.refl state with }
  | processCompletionEvent =>
      obtain rfl := Option.some.inj ran
      unfold processCompletionEvent
      split <;> exact { Unnoticed.refl state with }
  | dispatchCompletionEvents =>
      obtain rfl := Option.some.inj ran
      exact dispatchCompletionEvents_unnoticed state
  | _ => simp [Task.unnoticed] at other

theorem ceqDoorbell_unnoticed (state : State) (value : Nat) :
    Unnoticed state (ceqDoorbell state value) := by
  unfold ceqDoorbell
  simp only
  split
  next => exact Unnoticed.refl state
  next => split <;> exact { Unnoticed.refl state with }

/-! ## Commands -/

theorem Issued.unnoticed (issued : Issued state after) : Unnoticed state after := by
  cases issued with
  | read callback => exact (Unnoticed.refl state).then_call callback
  | writeBack command status =>
      exact ((Unnoticed.refl state).then_emit (by simp [Observation.notice])).then_call _

theorem finishUbaseDescriptor_unnoticed (state : State) (command : Command) (status : Nat) :
    Unnoticed state (finishUbaseDescriptor state command status) :=
  (Issued.writeBack command status).unnoticed

theorem queryRead_unnoticed (state : State) (command : Command) (ok : Bool) (bytes : Bytes) :
    Unnoticed state (queryRead state command ok bytes) := by
  rcases queryRead_cases state command ok bytes with same | ⟨jfc, found, _, _, same⟩
  · rw [same]
    exact finishUbaseDescriptor_unnoticed state command 5
  · rw [same]
    apply Unnoticed.then_call
    exact { Unnoticed.refl state with timer := State.timer_setJfc_same found rfl }

end Functions

end Udma.Cq
