import Udma.Cq.Callbacks

/-!
# CQEs that have landed

A CQE has landed when the host reports its write as done.  Its caller is then told
of a success: the JFC is still there, and in pipelined mode the write is counted in
`jfc_cqe_dma_in_flight_`.  So a caller that is told of a failure has no CQE in memory.
-/

namespace Udma.Cq

open Udma.Abi Udma.Arithmetic Udma.Collections Udma.Transition

variable {config : Config} {state changed before after : State} {event : Event}

/-- The JFC whose CQE a callback reports. -/
def Callback.writes : Callback → Option Nat
  | .cqeWritten _ id _ => some id
  | _ => none

/-- The JFCs of the CQE writes in the hands of the host. -/
def State.writes (state : State) : List Nat := state.outstanding.filterMap Callback.writes

/-- The CQE writes that the engine counts for a JFC. -/
def State.counted (state : State) (id : Nat) : Nat := (state.jfcCqeDmaInFlight.lookup id).getD 0

/-! ## Functions without a CQE write -/

def Task.telling : Task → Option (Nat × Bool)
  | .complete call ok => some (call, ok)
  | _ => none

def Observation.telling : Observation → Option (Nat × Bool)
  | .completed call ok => some (call, ok)
  | _ => none

/-- What callers have been told, in order. -/
def tellingOf (trace : List Observation) : List (Nat × Bool) :=
  trace.filterMap Observation.telling

/-- Activations are added on top of the stack, and observations behind the trace; no caller is
told anything. -/
structure Grown (state after : State) : Prop where
  stack : state.stack <:+ after.stack
  trace : state.trace <+: after.trace
  silent : tellingOf after.trace = tellingOf state.trace

namespace Grown

theorem refl (state : State) : Grown state state :=
  ⟨List.suffix_refl _, List.prefix_refl _, rfl⟩

theorem trans (first : Grown state changed) (second : Grown changed after) : Grown state after :=
  ⟨first.stack.trans second.stack, first.trace.trans second.trace,
    second.silent.trans first.silent⟩

theorem of_eq (stack : after.stack = state.stack) (trace : after.trace = state.trace) :
    Grown state after :=
  ⟨stack ▸ List.suffix_refl _, trace ▸ List.prefix_refl _, by rw [trace]⟩

theorem then_push (grown : Grown state changed) (tasks : List Task) :
    Grown state (changed.push tasks) :=
  ⟨grown.stack.trans (List.suffix_append tasks _), grown.trace, grown.silent⟩

theorem then_emit (grown : Grown state changed) {observations : List Observation}
    (quiet : tellingOf observations = []) : Grown state (changed.emit observations) where
  stack := grown.stack
  trace := grown.trace.trans (List.prefix_append _ observations)
  silent := by
    rw [State.emit_trace, tellingOf, List.filterMap_append, ← tellingOf, ← tellingOf, quiet,
      List.append_nil, grown.silent]

theorem then_call (grown : Grown state changed) (callback : Callback) :
    Grown state (changed.call callback) :=
  ⟨grown.stack.trans (List.suffix_cons _ _), grown.trace, grown.silent⟩

theorem then_writeBack (grown : Grown state changed) (command : Command) (status : Nat) :
    Grown state (finishUbaseDescriptor changed command status) :=
  (grown.then_emit rfl).then_call _

/-- Who has been told of a success stays told. -/
theorem won {call : Nat} (grown : Grown state after) (told : state.Won call) : after.Won call :=
  told.imp (fun held => grown.stack.subset held) fun seen => grown.trace.subset seen

end Grown

/-- Neither the writes nor the counters change. -/
structure Level (state after : State) : Prop extends Grown state after where
  counters : after.jfcCqeDmaInFlight = state.jfcCqeDmaInFlight
  writes : after.writes = state.writes

namespace Level

theorem refl (state : State) : Level state state := ⟨.refl state, rfl, rfl⟩

theorem trans (first : Level state changed) (second : Level changed after) : Level state after :=
  ⟨first.toGrown.trans second.toGrown, second.counters.trans first.counters,
    second.writes.trans first.writes⟩

theorem of_eq (counters : after.jfcCqeDmaInFlight = state.jfcCqeDmaInFlight)
    (outstanding : after.outstanding = state.outstanding) (stack : after.stack = state.stack)
    (trace : after.trace = state.trace) : Level state after :=
  ⟨.of_eq stack trace, counters, by rw [State.writes, outstanding, State.writes]⟩

theorem then_push (level : Level state changed) (tasks : List Task) :
    Level state (changed.push tasks) :=
  ⟨level.toGrown.then_push tasks, level.counters, level.writes⟩

theorem then_emit (level : Level state changed) {observations : List Observation}
    (quiet : tellingOf observations = []) : Level state (changed.emit observations) :=
  ⟨level.toGrown.then_emit quiet, level.counters, level.writes⟩

theorem then_call (level : Level state changed) {callback : Callback}
    (other : callback.writes = none) : Level state (changed.call callback) where
  toGrown := level.toGrown.then_call callback
  counters := level.counters
  writes := by
    have same : changed.writes = state.writes := level.writes
    simp only [State.writes] at same
    simp [State.writes, other, same]

theorem then_writeBack (level : Level state changed) (command : Command) (status : Nat) :
    Level state (finishUbaseDescriptor changed command status) :=
  (level.then_emit rfl).then_call rfl

end Level

theorem pumpCompletionWork_level (state : State) : Level state (pumpCompletionWork state) := by
  unfold pumpCompletionWork
  split
  next => exact .of_eq rfl rfl rfl rfl
  next =>
    refine Level.then_push ?_ _
    exact .of_eq rfl rfl rfl rfl

theorem pumpTimers_level (config : Config) (state : State) (expired : List Nat) :
    Level state (pumpTimers config state expired) := by
  unfold pumpTimers pumpTimer
  split
  next => exact (Level.refl state).then_push _
  next =>
    split
    next => exact (Level.refl state).then_push _
    next =>
      split
      next => exact (Level.refl state).then_push _
      next =>
        refine Level.then_push (Level.then_emit ?_ rfl) _
        exact .of_eq rfl rfl rfl rfl

theorem pumpQueues_level (state : State) (ids : List Nat) : Level state (pumpQueues state ids) := by
  unfold pumpQueues
  split
  next =>
    split
    next => exact (Level.refl state).then_push _
    next => exact .of_eq rfl rfl rfl rfl
  next => exact (Level.refl state).then_push _

theorem processJfcPublications_level (config : Config) (state : State) (id : Nat) :
    Level state (processJfcPublications config state id) := by
  unfold processJfcPublications
  split
  next => exact .refl state
  next =>
    split
    next => exact .refl state
    next =>
      refine Level.then_push ?_ _
      exact .of_eq rfl rfl rfl rfl

theorem leaveJfcPublications_level (state : State) (id : Nat) :
    Level state (leaveJfcPublications state id) := by
  unfold leaveJfcPublications
  split
  next => exact .refl state
  next =>
    split
    next =>
      refine Level.then_push ?_ _
      exact .of_eq rfl rfl rfl rfl
    next => exact .of_eq rfl rfl rfl rfl

theorem releasePublication_level (config : Config) (state : State) (id : Nat) :
    Level state (releasePublication config state id) := by
  unfold releasePublication
  split
  next => exact (Level.refl state).then_push _
  next =>
    refine Level.then_push ?_ _
    exact .of_eq rfl rfl rfl rfl

theorem releaseCompletionEventSlot_level (state : State) (ticket : Nat) :
    Level state (releaseCompletionEventSlot state ticket) := by
  refine Level.then_push (Level.then_emit ?_ rfl) _
  exact .of_eq rfl rfl rfl rfl

theorem emitCompletionEvent_level (config : Config) (state : State) (ticket id : Nat) :
    Level state (emitCompletionEvent config state ticket id) := by
  unfold emitCompletionEvent
  simp only
  split
  next => exact (Level.refl state).then_push _
  next =>
    split
    next =>
      apply Level.then_push
      split <;> exact .of_eq rfl rfl rfl rfl
    next =>
      refine Level.then_push (Level.then_emit ?_ rfl) _
      split <;> exact .of_eq rfl rfl rfl rfl

theorem processCompletionEvent_level (state : State) :
    Level state (processCompletionEvent state) := by
  unfold processCompletionEvent
  split
  next => exact .refl state
  next =>
    refine Level.then_push ?_ _
    exact .of_eq rfl rfl rfl rfl

theorem leaveCompletionEvents_level (state : State) : Level state (leaveCompletionEvents state) := by
  refine Level.then_push ?_ _
  exact .of_eq rfl rfl rfl rfl

theorem dispatchCompletionEvents_level (state : State) :
    Level state (dispatchCompletionEvents state) := by
  unfold dispatchCompletionEvents
  split
  next => exact leaveCompletionEvents_level state
  next =>
    split
    next => exact leaveCompletionEvents_level state
    next event _ =>
      have taken : Level state { state with
          completionEvents := state.completionEvents.eraseP state.eligible } :=
        .of_eq rfl rfl rfl rfl
      split
      next => exact taken.then_push _
      next =>
        refine Level.then_call (Level.then_emit ?_ rfl) rfl
        refine (taken.then_push [.dispatchCompletionEvents]).trans ?_
        exact .of_eq rfl rfl rfl rfl

theorem ceqeWritten_level (state : State) (ticket ceqId : Nat) (ok : Bool) :
    Level state (ceqeWritten state ticket ceqId ok) := by
  unfold ceqeWritten
  simp only
  split
  next =>
    refine Level.then_emit ?_ rfl
    exact .of_eq rfl rfl rfl rfl
  next =>
    split
    next =>
      refine Level.then_call ?_ rfl
      exact .of_eq rfl rfl rfl rfl
    next =>
      refine Level.then_push ?_ _
      exact .of_eq rfl rfl rfl rfl

theorem interruptRaised_level (state : State) (ticket : Nat) :
    Level state (interruptRaised state ticket) := by
  refine Level.then_push ?_ _
  exact .of_eq rfl rfl rfl rfl

theorem writeCqe_level (state : State) (id : Nat) (cqe : Cqe) :
    Level state (writeCqe state id cqe) := by
  have counted : Level state { state with calls := state.calls + 1 } := .of_eq rfl rfl rfl rfl
  have queued {changed : State} (level : Level state changed) (queue : PublicationQueue) :
      Level state (changed.setQueue id queue) := level.trans (.of_eq rfl rfl rfl rfl)
  unfold writeCqe
  simp only
  split
  next => exact (counted.then_emit rfl).then_push _
  next => exact ((queued (counted.then_emit rfl) _).then_emit rfl).then_push _

theorem ceqDoorbell_level (state : State) (value : Nat) : Level state (ceqDoorbell state value) := by
  unfold ceqDoorbell
  simp only
  split
  next => exact .refl state
  next =>
    split
    next => exact .refl state
    next =>
      refine Level.then_push ?_ _
      exact .of_eq rfl rfl rfl rfl

theorem jfcDoorbell_level (config : Config) (state : State) (value : Nat) :
    Level state (jfcDoorbell config state value) := by
  unfold jfcDoorbell
  simp only
  split
  next =>
    refine Level.then_emit ?_ rfl
    exact .of_eq rfl rfl rfl rfl
  next => exact .refl state

theorem Issued.level (issued : Issued state after) : Level state after := by
  cases issued with
  | read callback own _ =>
      refine (Level.refl state).then_call ?_
      cases callback <;> first | rfl | simp [Callback.mailbox] at own
  | writeBack command status => exact (Level.refl state).then_writeBack command status

theorem queryRead_level (state : State) (command : Command) (ok : Bool) (bytes : Bytes) :
    Level state (queryRead state command ok bytes) := by
  rcases queryRead_cases state command ok bytes with same | ⟨_, _, _, _, same⟩
  · rw [same]
    exact (Level.refl state).then_writeBack command 5
  · rw [same]
    refine Level.then_call ?_ rfl
    exact .of_eq rfl rfl rfl rfl

/-! ## What a step does to the writes -/

/-- The counter of one JFC changes. -/
def State.Recounted (config : Config) (state after : State) (id count : Nat) : Prop :=
  config.pipelinedCompletionDma = true → after.counted = Function.update state.counted id count

/-- What a step does to the writes and their counters. -/
inductive Flight (config : Config) (state after : State) : Prop where
  | level : Level state after → Flight config state after
  | launched (id : Nat) :
      Grown state after → state.Recounted config after id (state.counted id + 1) →
      after.writes = state.writes ++ [id] → Flight config state after
  | landed (id : Nat) (earlier later : List Nat) :
      Grown state after → state.writes = earlier ++ id :: later → after.writes = earlier ++ later →
      state.Recounted config after id (state.counted id - 1) → Flight config state after
  | cleared (id : Nat) :
      Grown state after → id ∉ state.writes → after.writes = state.writes →
      state.Recounted config after id 0 → Flight config state after

theorem State.counted_insert (state : State) (id count : Nat) (counters : Map Nat)
    (changed : after.jfcCqeDmaInFlight = counters.insert id count)
    (own : state.jfcCqeDmaInFlight = counters) :
    after.counted = Function.update state.counted id count := by
  funext other
  by_cases same : other = id
  · subst same
    simp [State.counted, changed]
  · simp [State.counted, changed, own, AList.lookup_insert_ne same, Function.update_of_ne same]

theorem State.counted_erase (state : State) (id : Nat) (counters : Map Nat)
    (changed : after.jfcCqeDmaInFlight = counters.erase id)
    (own : state.jfcCqeDmaInFlight = counters) :
    after.counted = Function.update state.counted id 0 := by
  funext other
  by_cases same : other = id
  · subst same
    simp [State.counted, changed]
  · simp [State.counted, changed, own, AList.lookup_erase_ne same, Function.update_of_ne same]

theorem State.counted_eq (same : after.jfcCqeDmaInFlight = state.jfcCqeDmaInFlight) :
    after.counted = state.counted := by
  funext id
  rw [State.counted, same, State.counted]

theorem Flight.of_level (flight : Flight config changed after) (level : Level state changed) :
    Flight config state after := by
  have counted : changed.counted = state.counted := State.counted_eq level.counters
  have writes := level.writes
  cases flight with
  | level same => exact .level (level.trans same)
  | launched id grown counter more =>
      refine .launched id (level.toGrown.trans grown) ?_ (by rw [more, writes])
      simpa only [State.Recounted, counted] using counter
  | landed id earlier later grown held left counter =>
      refine .landed id earlier later (level.toGrown.trans grown) (by rw [← writes, held]) left ?_
      simpa only [State.Recounted, counted] using counter
  | cleared id grown none same counter =>
      refine .cleared id (level.toGrown.trans grown) (by rwa [← writes]) (same.trans writes) ?_
      simpa only [State.Recounted, counted] using counter

theorem publish_flight (config : Config) (state : State) (ticket id : Nat)
    (publication : Publication) (consumer : Option Nat) :
    Flight config state (publish config state ticket id publication consumer) := by
  unfold publish
  split
  next _ index jfc _ =>
    split
    next => exact .level ((Level.refl state).then_push _)
    next =>
      refine .launched id ?_ ?_ ?_
      · refine Grown.then_call (Grown.then_emit ?_ rfl) _
        unfold reserveCqe
        split <;> exact .of_eq rfl rfl
      · intro pipelined
        refine State.counted_insert state id _ state.jfcCqeDmaInFlight ?_ rfl
        simp [reserveCqe, pipelined, State.counted]
      · have same : (reserveCqe config state id jfc index).outstanding = state.outstanding := by
          unfold reserveCqe
          split <;> rfl
        simp [State.writes, same, Callback.writes]
  next => exact .level ((Level.refl state).then_push _)

theorem writeCqeNow_flight (config : Config) (state : State) (ticket id : Nat)
    (publication : Publication) :
    Flight config state (writeCqeNow config state ticket id publication) := by
  unfold writeCqeNow
  split
  next => exact .level ((Level.refl state).then_push _)
  next =>
    split
    next => exact publish_flight config state ticket id publication _
    next => exact .level ((Level.refl state).then_call rfl)

theorem admitJfcPublications_flight (config : Config) (state : State) (id : Nat) :
    Flight config state (admitJfcPublications config state id) := by
  unfold admitJfcPublications
  split
  next => exact .level (.refl state)
  next queue _ =>
    split
    next => exact .level ((Level.refl state).then_push _)
    next publication rest _ =>
      split
      next =>
        refine (writeCqeNow_flight config _ state.tickets id publication).of_level ?_
        refine Level.then_push (Level.then_emit ?_ rfl) _
        exact .of_eq rfl rfl rfl rfl
      next => exact .level ((Level.refl state).then_push _)

/-- A write whose JFC is gone is not in the hands of the host. -/
structure State.Secured (config : Config) (state : State) : Prop where
  loaded : ∀ id, state.load config id = 0 → id ∉ state.writes
  present : ∀ id, state.ring id = none → id ∉ state.writes

theorem moderate_counted (state : State) (ticket id call : Nat) (jfc : Jfc) :
    Level state (moderate state ticket id call jfc) := by
  unfold moderate
  split
  next =>
    refine Level.then_push ?_ _
    exact .of_eq rfl rfl rfl rfl
  next =>
    refine Level.then_push (Level.then_emit ?_ rfl) _
    exact .of_eq rfl rfl rfl rfl

/-- The counter of a JFC whose write has ended. -/
structure Returned (config : Config) (state : State) (id : Nat) (after : State) : Prop
    extends Grown state after where
  writes : after.writes = state.writes
  counter : state.Recounted config after id (state.counted id - 1)

theorem Returned.then_level {id : Nat} (returned : Returned config state id changed)
    (level : Level changed after) : Returned config state id after where
  toGrown := returned.toGrown.trans level.toGrown
  writes := level.writes.trans returned.writes
  counter := fun pipelined =>
    (State.counted_eq level.counters).trans (returned.counter pipelined)

theorem settleCqe_returned (config : Config) (jfc : Jfc) {id left : Nat}
    (counter : state.jfcCqeDmaInFlight.lookup id = some (left + 1)) :
    Returned config state id (settleCqe state id jfc left) := by
  refine ⟨.of_eq rfl rfl, rfl, fun _ => ?_⟩
  have lowered : state.counted id - 1 = left := by simp [State.counted, counter]
  rw [lowered]
  cases left with
  | zero => exact State.counted_erase state id _ rfl rfl
  | succ left => exact State.counted_insert state id (left + 1) _ rfl rfl

theorem cqeWritten_returned (config : Config) (state : State) (ticket id : Nat)
    (publication : Publication) (ok : Bool) (present : (state.jfcs.lookup id).isSome = true) :
    Returned config state id (cqeWritten config state ticket id publication ok) := by
  have uncounted (none : state.counted id = 0) : Returned config state id state := by
    refine ⟨.refl state, rfl, fun _ => ?_⟩
    rw [none]
    exact (Function.update_eq_self_iff.mpr none.symm).symm
  unfold cqeWritten
  split
  next absent => simp [absent] at present
  next jfc found =>
    split
    next pipelined =>
      split
      next counter =>
        exact (uncounted (by simp [State.counted, counter])).then_level
          ((Level.refl state).then_push _)
      next counter =>
        exact (uncounted (by simp [State.counted, counter])).then_level
          ((Level.refl state).then_push _)
      next left counter =>
        have settled := settleCqe_returned config jfc counter
        split
        next => exact settled.then_level (moderate_counted _ ticket id publication.call _)
        next => exact settled.then_level ((Level.refl _).then_push _)
    next serial =>
      have level {after : State} (level : Level state after) : Returned config state id after :=
        ⟨level.toGrown, level.writes, fun pipelined => absurd pipelined serial⟩
      split
      next => exact level (moderate_counted state ticket id publication.call _)
      next =>
        refine level (Level.then_push ?_ _)
        exact .of_eq rfl rfl rfl rfl

theorem applyUbaseMailbox_flight (secured : state.Secured config) (command : Command)
    (context : Bytes)
    (vacant : command.opcode = .createJfc → context ≠ [] → state.ring command.tag = none) :
    Flight config state (applyUbaseMailbox state command context) := by
  have issued (status : Nat) : Flight config state (finishUbaseDescriptor state command status) :=
    .level ((Level.refl state).then_writeBack command status)
  unfold applyUbaseMailbox
  split
  next =>
    split
    next => exact issued 22
    next =>
      refine .level (Level.then_writeBack ?_ command 0)
      exact .of_eq rfl rfl rfl rfl
  next isCreate =>
    split
    next => exact issued 22
    next jfc decoded =>
      have given : context ≠ [] := by
        rintro rfl
        simp [decodeJfc_nil] at decoded
      refine .cleared command.tag ?_ (secured.present _ (vacant isCreate given)) ?_ ?_
      · refine Grown.then_writeBack ?_ command 0
        exact .of_eq rfl rfl
      · simp [State.writes, finishUbaseDescriptor, Callback.writes]
      · intro _
        exact State.counted_erase state command.tag _ rfl rfl
  next =>
    split
    next => exact issued 2
    next =>
      refine .level (Level.then_writeBack ?_ command 0)
      exact .of_eq rfl rfl rfl rfl
  all_goals exact issued 0

theorem Handled.flight {command : Command} (secured : state.Secured config)
    (handled : Handled config state command after) : Flight config state after := by
  cases handled with
  | issued issued => exact .level issued.level
  | creating | creatingCeq => exact .level ((Level.refl state).then_call rfl)
  | deferredCeq | deferredJfc => exact .level (.of_eq rfl rfl rfl rfl)
  | erasedCeq =>
      refine .level (Level.then_writeBack ?_ command 0)
      exact .of_eq rfl rfl rfl rfl
  | erasedJfc idle =>
      refine .cleared command.tag ?_ (secured.loaded _ (unloaded_of_idle config idle).2) ?_ ?_
      · refine Grown.then_writeBack ?_ command 0
        exact .of_eq rfl rfl
      · simp [State.writes, finishUbaseDescriptor, Callback.writes, eraseJfc]
      · intro _
        exact State.counted_erase state command.tag _ rfl rfl

theorem maybeCompleteJfcDestroy_flight (secured : state.Secured config) :
    Flight config state (maybeCompleteJfcDestroy config state) := by
  unfold maybeCompleteJfcDestroy
  split
  next => exact .level (.refl state)
  next command _ =>
    split
    next => exact .level (.refl state)
    next =>
      have cleared : ({ state with pendingJfcDestroy := none, drainingJfcId := none }).Secured
          config := ⟨secured.loaded, secured.present⟩
      refine ((handleUbaseMailbox_handled config _ command).flight cleared).of_level ?_
      exact .of_eq rfl rfl rfl rfl

theorem maybeCompleteEqDestroy_flight (secured : state.Secured config) :
    Flight config state (maybeCompleteEqDestroy config state) := by
  unfold maybeCompleteEqDestroy
  split
  next => exact .level (.refl state)
  next command _ =>
    split
    next => exact .level (.refl state)
    next =>
      have cleared : ({ state with pendingEqDestroy := none, drainingCeqId := none }).Secured
          config := ⟨secured.loaded, secured.present⟩
      refine ((handleUbaseMailbox_handled config _ command).flight cleared).of_level ?_
      exact .of_eq rfl rfl rfl rfl

/-- An activation that does not call a caller back. -/
theorem runTask_flight {task : Task} (secured : state.Secured config)
    (other : task.telling = none) (ran : runTask config state task = some after) :
    Flight config state after := by
  cases task with
  | complete call ok => simp [Task.telling] at other
  | external =>
      obtain rfl := Option.some.inj ran
      exact .level (.refl state)
  | pumpCompletionWork =>
      obtain rfl := Option.some.inj ran
      exact .level (pumpCompletionWork_level state)
  | pumpPass => simp [runTask] at ran
  | pumpTimers expired =>
      obtain rfl := Option.some.inj ran
      exact .level (pumpTimers_level config state expired)
  | pumpQueues ids =>
      obtain rfl := Option.some.inj ran
      exact .level (pumpQueues_level state ids)
  | processJfcPublications id =>
      obtain rfl := Option.some.inj ran
      exact .level (processJfcPublications_level config state id)
  | admitJfcPublications id =>
      obtain rfl := Option.some.inj ran
      exact admitJfcPublications_flight config state id
  | leaveJfcPublications id =>
      obtain rfl := Option.some.inj ran
      exact .level (leaveJfcPublications_level state id)
  | releasePublication id =>
      obtain rfl := Option.some.inj ran
      exact .level (releasePublication_level config state id)
  | emitCompletionEvent ticket id =>
      obtain rfl := Option.some.inj ran
      exact .level (emitCompletionEvent_level config state ticket id)
  | releaseCompletionEventSlot ticket =>
      obtain rfl := Option.some.inj ran
      exact .level (releaseCompletionEventSlot_level state ticket)
  | processCompletionEvent =>
      obtain rfl := Option.some.inj ran
      exact .level (processCompletionEvent_level state)
  | dispatchCompletionEvents =>
      obtain rfl := Option.some.inj ran
      exact .level (dispatchCompletionEvents_level state)
  | maybeCompleteJfcDestroy =>
      obtain rfl := Option.some.inj ran
      exact maybeCompleteJfcDestroy_flight secured
  | maybeCompleteEqDestroy =>
      obtain rfl := Option.some.inj ran
      exact maybeCompleteEqDestroy_flight secured

/-- A callback that is not the end of a CQE write. -/
theorem runCallback_flight (secured : state.Secured config) (ok : Bool) (bytes : Bytes)
    {callback : Callback} (other : callback.writes = none)
    (vacant : ∀ command, callback = .contextRead command → command.opcode = .createJfc →
      state.ring command.tag = none) :
    Flight config state (runCallback config state ok bytes callback) := by
  cases callback with
  | consumerRead ticket id publication => exact publish_flight config state ticket id publication _
  | cqeWritten ticket id publication => simp [Callback.writes] at other
  | ceqeWritten ticket ceqId vector => exact .level (ceqeWritten_level state ticket ceqId ok)
  | interruptRaised ticket => exact .level (interruptRaised_level state ticket)
  | contextRead command =>
      simp only [runCallback, contextRead]
      split
      next => exact applyUbaseMailbox_flight secured command bytes fun isCreate _ =>
          vacant command rfl isCreate
      next => exact .level ((Level.refl state).then_writeBack command 5)
  | queryRead command => exact .level (queryRead_level state command ok bytes)
  | queryWritten command =>
      simp only [runCallback, queryWritten]
      split
      next => exact applyUbaseMailbox_flight secured command [] fun _ given => absurd rfl given
      next => exact .level ((Level.refl state).then_writeBack command 5)
  | descriptorWritten => exact .level (.of_eq rfl rfl rfl rfl)

theorem environment_flight (secured : before.Secured config)
    (vacant : ∀ command, .contextRead command ∈ before.outstanding →
      command.opcode = .createJfc → before.ring command.tag = none)
    (acted : environment config before event = some after) : Flight config before after := by
  cases event with
  | run => simp [environment] at acted
  | beginPass expired => simp [environment] at acted
  | fire index ok bytes =>
      simp only [environment] at acted
      cases found : before.outstanding[index]? with
      | none => simp [found] at acted
      | some callback =>
          simp only [found, Option.some.injEq] at acted
          subst acted
          by_cases other : callback.writes = none
          · have withdrawn : Level before
                { before with outstanding := before.outstanding.eraseIdx index } :=
              ⟨.of_eq rfl rfl, rfl, filterMap_eraseIdx_none found other⟩
            have kept : ({ before with
                outstanding := before.outstanding.eraseIdx index }).Secured config := by
              refine ⟨fun id idle => ?_, fun id gone => ?_⟩
              · rw [withdrawn.writes]
                exact secured.loaded id idle
              · rw [withdrawn.writes]
                exact secured.present id gone
            refine (runCallback_flight kept ok bytes other ?_).of_level withdrawn
            rintro command rfl isCreate
            exact vacant command (List.mem_of_getElem? found) isCreate
          · cases callback with
            | cqeWritten ticket id publication =>
                obtain ⟨earlier, later, held, left⟩ :=
                  filterMap_eraseIdx_some found (show Callback.writes _ = some id from rfl)
                have writing : id ∈ before.writes := by
                  rw [State.writes, held]
                  simp
                have known : (before.jfcs.lookup id).isSome = true := by
                  by_contra absent
                  refine secured.present id ?_ writing
                  simpa [State.ring] using absent
                have returned := cqeWritten_returned config
                  { before with outstanding := before.outstanding.eraseIdx index } ticket id
                  publication ok known
                exact .landed id earlier later ⟨returned.stack, returned.trace, returned.silent⟩ held
                  (returned.writes.trans left) returned.counter
            | _ => simp [Callback.writes] at other
  | writeCqe id cqe =>
      obtain rfl := Option.some.inj acted
      exact .level (writeCqe_level before id cqe)
  | mailbox command =>
      simp only [environment] at acted
      split at acted
      next => simp at acted
      next =>
        obtain rfl := Option.some.inj acted
        have busy : ({ before with ubaseBusy := true }).Secured config :=
          ⟨secured.loaded, secured.present⟩
        refine ((handleUbaseMailbox_handled config _ command).flight busy).of_level ?_
        exact .of_eq rfl rfl rfl rfl
  | ceqDoorbell value =>
      obtain rfl := Option.some.inj acted
      exact .level (ceqDoorbell_level before value)
  | jfcDoorbell value =>
      obtain rfl := Option.some.inj acted
      exact .level (jfcDoorbell_level config before value)
  | advanceTime now =>
      simp only [environment] at acted
      split at acted
      next =>
        obtain rfl := Option.some.inj acted
        exact .level (.refl before)
      next =>
        obtain rfl := Option.some.inj acted
        refine .level (Level.then_push ?_ _)
        exact .of_eq rfl rfl rfl rfl

/-- The caller that a step calls back. -/
def State.telling (state : State) : Event → Option (Nat × Bool)
  | .run => state.stack.head?.bind Task.telling
  | _ => none

/-- The same for a whole step, from the state in which the running activation has been taken
off the stack and has called a caller back. -/
theorem step_flight (secured : before.Secured config)
    (vacant : ∀ command, .contextRead command ∈ before.outstanding →
      command.opcode = .createJfc → before.ring command.tag = none)
    (taken : step config before event = some after) :
    ∃ stack observations, tellingOf observations = (before.telling event).toList ∧
      Flight config ((before.withStack stack).emit observations) after := by
  have below (stack : List Task) : (before.withStack stack).Secured config :=
    ⟨secured.loaded, secured.present⟩
  have quiet (state : State) : state.emit [] = state := by simp [State.emit]
  rcases step_kinds taken with ⟨task, rest, rfl, shape, ran⟩ | ⟨expired, rest, shape, _, rfl⟩ | acted
  · cases telling : task.telling with
    | none =>
        refine ⟨rest, [], by simp [State.telling, shape, telling, tellingOf], ?_⟩
        rw [quiet]
        exact runTask_flight (below rest) telling ran
    | some told =>
        cases task with
        | complete call ok =>
            obtain rfl := Option.some.inj ran
            refine ⟨rest, [.completed call ok], ?_, .level ((Level.refl _).then_push _)⟩
            simp [State.telling, shape, Task.telling, tellingOf, Observation.telling]
        | _ => simp [Task.telling] at telling
  · refine ⟨rest, [], ?_, .level (Level.then_push ?_ _)⟩
    · cases event <;> simp [State.telling, shape, Task.telling, tellingOf]
    · rw [quiet]
      exact .of_eq rfl rfl rfl rfl
  · refine ⟨before.stack, [], ?_, ?_⟩
    · cases event <;> first | rfl | simp [environment] at acted
    · rw [quiet]
      exact environment_flight secured vacant acted

theorem Flight.grown (flight : Flight config state after) : Grown state after := by
  cases flight with
  | level level => exact level.toGrown
  | launched _ grown => exact grown
  | landed _ _ _ grown => exact grown
  | cleared _ grown => exact grown

/-! ## Every write is counted -/

theorem State.count_writes (config : Config) (state : State) (id : Nat) :
    state.writes.count id = (state.lane config id).writing.length := by
  simp only [State.writes, State.lane]
  induction state.outstanding with
  | nil => rfl
  | cons callback rest inductionHypothesis =>
      cases callback with
      | cqeWritten ticket other publication =>
          by_cases same : other = id
          · subst same
            simp [Callback.writes, Callback.writing, inductionHypothesis]
          · simp [Callback.writes, Callback.writing, same, inductionHypothesis]
      | _ =>
          rw [List.filterMap_cons_none rfl, List.filterMap_cons_none rfl]
          exact inductionHypothesis

theorem mem_writes_iff (config : Config) (state : State) (id : Nat) :
    id ∈ state.writes ↔ (state.lane config id).writing ≠ [] := by
  rw [← List.count_pos_iff, state.count_writes config id, List.length_pos_iff]

/-- A lane without a ring writes nothing. -/
theorem Lane.Move.writing_nil {pipelined : Bool} {input : Input} {id : Nat} {lane next : Lane}
    (moved : Lane.Move pipelined input id lane next)
    (held : lane.reading.length + lane.writing.length ≤ lane.load)
    (known : lane.ring = none → lane.writing = []) (gone : next.ring = none) :
    next.writing = [] := by
  cases moved with
  | written shape changed =>
      have none : lane.ring = none := by
        rcases changed with rfl | ⟨_, old, _, rfl⟩
        · exact gone
        · simp at gone
      simp [known none] at shape
  | erased waiting idle =>
      have none : lane.writing.length = 0 := by omega
      exact List.length_eq_zero_iff.mp none
  | reserved | refreshed => simp [Lane.reserve] at gone
  | queried | installed => simp at gone
  | _ => exact known gone

/-- Every CQE write in the hands of the host has its JFC, and in pipelined mode is counted. -/
structure State.Afloat (config : Config) (state : State) : Prop where
  present : ∀ id, state.ring id = none → (state.lane config id).writing = []
  counted : config.pipelinedCompletionDma = true →
    ∀ id, state.counted id = state.writes.count id

theorem State.Afloat.secured (afloat : state.Afloat config)
    (balanced : (state.books config).Balanced config.completionEventSlots) :
    state.Secured config where
  loaded := by
    intro id idle held
    have loaded := held_le_load balanced id
    have unloaded : (state.lane config id).load = 0 := idle
    rw [mem_writes_iff config] at held
    exact held (List.length_eq_zero_iff.mp (by omega))
  present := fun id gone held => (mem_writes_iff config state id).mp held (afloat.present id gone)

theorem afloat_of_reaches {guard : State → Event → State → Prop}
    (reached : Reaches (step config) guard .initial state) : state.Afloat config := by
  refine reached.induction_on (State.Afloat config) ⟨fun _ _ => rfl, fun _ _ => rfl⟩ ?_
  intro before event after earlier afloat taken _
  have balanced := balanced_of_reaches earlier
  refine ⟨fun id gone => ?_, fun pipelined id => ?_⟩
  · exact (step_lane taken id).writing_nil (held_le_load balanced id) (afloat.present id) gone
  · have counted := afloat.counted pipelined
    obtain ⟨stack, observations, _, flight⟩ :=
      step_flight (afloat.secured balanced) (filed_of_reaches earlier).vacant taken
    have counted : ∀ id, ((before.withStack stack).emit observations).counted id =
        ((before.withStack stack).emit observations).writes.count id := counted
    generalize (before.withStack stack).emit observations = base at flight counted
    cases flight with
    | level level => rw [State.counted_eq level.counters, level.writes, counted id]
    | launched other _ counter grown =>
        rw [counter pipelined, grown, List.count_append]
        by_cases same : id = other
        · subst same
          simp [counted]
        · rw [Function.update_of_ne same, counted id]
          simp [Ne.symm same]
    | landed other first last _ held left counter =>
        rw [counter pipelined, left, counted other]
        by_cases same : id = other
        · subst same
          simp [held]
        · rw [Function.update_of_ne same, counted id, held]
          simp [Ne.symm same]
    | cleared other _ none same counter =>
        rw [counter pipelined, same]
        by_cases own : id = other
        · subst own
          simp [List.count_eq_zero.mpr none]
        · rw [Function.update_of_ne own, counted id]

/-! ## Callers are told once -/

/-- What callers have been told, or are about to be told. -/
def State.told (state : State) : List (Nat × Bool) :=
  state.stack.filterMap Task.telling ++ tellingOf state.trace

/-- The call whose publication the host works on. -/
def Callback.caller : Callback → Option Nat
  | .consumerRead _ _ publication | .cqeWritten _ _ publication => some publication.call
  | _ => none

theorem callers_stack (stack : List Task) :
    (stack.map Task.tokens).sum.filterMap Token.caller? =
      ↑((stack.filterMap Task.telling).map Prod.fst) := by
  induction stack with
  | nil => rfl
  | cons task rest inductionHypothesis =>
      rw [List.map_cons, List.sum_cons, Multiset.filterMap_add, inductionHypothesis]
      cases task <;> rfl

theorem callers_outstanding (outstanding : List Callback) :
    (outstanding.map Callback.tokens).sum.filterMap Token.caller? =
      ↑(outstanding.filterMap Callback.caller) := by
  induction outstanding with
  | nil => rfl
  | cons callback rest inductionHypothesis =>
      rw [List.map_cons, List.sum_cons, Multiset.filterMap_add, inductionHypothesis]
      cases callback <;> rfl

theorem completed_told (trace : List Observation) :
    (tellingOf trace).map Prod.fst = completedOf trace := by
  rw [tellingOf, completedOf, journal, List.map_filterMap, List.filterMap_filterMap]
  congr 1
  funext observation
  cases observation <;> rfl

/-- A call is in the hands of the host, or its caller has been told: one of both, once. -/
theorem callers_nodup (balanced : (state.books config).Balanced config.completionEventSlots) :
    (state.outstanding.filterMap Callback.caller ++ state.told.map Prod.fst).Nodup := by
  have callers : state.tokens.filterMap Token.caller? +
      (↑(completedOf state.trace) : Multiset Nat) = Multiset.range state.calls := balanced.callers
  have within : (↑(state.outstanding.filterMap Callback.caller ++ state.told.map Prod.fst) :
      Multiset Nat) ≤ Multiset.range state.calls := by
    rw [← callers, State.told, List.map_append, completed_told]
    simp only [State.tokens, Multiset.filterMap_add, callers_stack, callers_outstanding,
      ← Multiset.coe_add]
    generalize Multiset.filterMap Token.caller? (state.completionEvents.map _).sum = events
    generalize Multiset.filterMap Token.caller? (tableTotal _ _) = queued
    rw [Multiset.le_iff_exists_add]
    exact ⟨events + queued, by abel⟩
  exact Multiset.coe_nodup.mp (Multiset.nodup_of_le within (Multiset.nodup_range _))

theorem mem_tellingOf_iff {trace : List Observation} {call : Nat} {ok : Bool} :
    (call, ok) ∈ tellingOf trace ↔ .completed call ok ∈ trace := by
  have traced (observation : Observation) :
      observation.telling = some (call, ok) ↔ observation = .completed call ok := by
    cases observation <;> simp [Observation.telling]
  simp [tellingOf, traced]

theorem mem_told_iff (state : State) (call : Nat) : (call, true) ∈ state.told ↔ state.Won call := by
  have stacked (task : Task) : task.telling = some (call, true) ↔ task = .complete call true := by
    cases task <;> simp [Task.telling]
  simp [State.told, State.Won, stacked, mem_tellingOf_iff]

/-! ## Landed CQEs -/

/-- The CQE that an event reports as written, with its JFC. -/
def State.landing (state : State) : Event → Option (Nat × Publication)
  | .fire index true _ =>
      match state.outstanding[index]? with
      | some (.cqeWritten _ id publication) => some (id, publication)
      | _ => none
  | _ => none

theorem landing_cases {id : Nat} {publication : Publication}
    (landed : before.landing event = some (id, publication)) :
    ∃ index ticket bytes, event = .fire index true bytes ∧
      before.outstanding[index]? = some (.cqeWritten ticket id publication) := by
  unfold State.landing at landed
  split at landed
  next index bytes =>
    split at landed
    next ticket _ _ found =>
      obtain ⟨rfl, rfl⟩ := Prod.mk.inj (Option.some.inj landed)
      exact ⟨index, ticket, bytes, rfl, found⟩
    next => simp at landed
  next => simp at landed

theorem written_of_landing (state : State) (event : Event) :
    state.written event = (state.landing event).map fun landed => landed.2.call := by
  cases event with
  | fire index ok bytes =>
      cases ok with
      | true =>
          cases found : state.outstanding[index]? with
          | none => simp [State.written, State.landing, found]
          | some callback =>
              cases callback <;> simp [State.written, State.landing, found, Callback.written]
      | false =>
          cases found : state.outstanding[index]? with
          | none => simp [State.written, State.landing, found]
          | some callback =>
              cases callback <;> simp [State.written, State.landing, found, Callback.written]
  | _ => rfl

/-- The caller of a CQE that has landed is told of the success. -/
theorem cqeWritten_won {ticket id : Nat} {publication : Publication}
    (present : (state.jfcs.lookup id).isSome = true)
    (counted : config.pipelinedCompletionDma = true → 0 < state.counted id) :
    (cqeWritten config state ticket id publication true).Won publication.call := by
  have moderated (changed : State) (jfc : Jfc) :
      (moderate changed ticket id publication.call jfc).Won publication.call := by
    unfold moderate
    split <;> exact .inl (by simp [finish])
  unfold cqeWritten
  split
  next absent => simp [absent] at present
  next jfc found =>
    split
    next pipelined =>
      have positive := counted pipelined
      split
      next counter => simp [State.counted, counter] at positive
      next counter => simp [State.counted, counter] at positive
      next => exact moderated _ _
    next => exact moderated _ _

theorem landing_won {id : Nat} {publication : Publication}
    (reached : Reaches (step config) (Addressed config) .initial before)
    (taken : step config before event = some after)
    (landed : before.landing event = some (id, publication)) : after.Won publication.call := by
  obtain ⟨index, ticket, bytes, rfl, found⟩ := landing_cases landed
  have afloat := afloat_of_reaches reached
  have writing : id ∈ before.writes :=
    List.mem_filterMap.mpr ⟨_, List.mem_of_getElem? found, rfl⟩
  have present : (before.jfcs.lookup id).isSome = true := by
    by_contra absent
    refine (mem_writes_iff config before id).mp writing (afloat.present id ?_)
    simpa [State.ring] using absent
  rcases step_kinds taken with ⟨_, _, isRun, _, _⟩ | ⟨expired, rest, shape, _, rfl⟩ | acted
  · cases isRun
  · unfold step at taken
    simp [shape, State.atBoundary] at taken
  · simp only [environment, found, Option.some.injEq] at acted
    subst acted
    refine cqeWritten_won present fun pipelined => ?_
    have counted : before.counted id = before.writes.count id := afloat.counted pipelined id
    have positive : 0 < before.writes.count id := List.count_pos_iff.mpr writing
    change 0 < before.counted id
    omega

theorem won_kept {call : Nat}
    (reached : Reaches (step config) (Addressed config) .initial before)
    (taken : step config before event = some after) (won : before.Won call) : after.Won call := by
  have secured := (afloat_of_reaches reached).secured (balanced_of_reaches reached)
  have below (stack : List Task) : (before.withStack stack).Secured config :=
    ⟨secured.loaded, secured.present⟩
  rcases step_cases taken with ⟨task, rest, shape, ran⟩ | ⟨expired, rest, shape, _, rfl⟩ | acted
  · cases telling : task.telling with
    | none =>
        have grown := (runTask_flight (below rest) telling ran).grown
        rcases won with held | seen
        · rw [shape, List.mem_cons] at held
          rcases held with rfl | held
          · simp [Task.telling] at telling
          · exact grown.won (.inl held)
        · exact grown.won (.inr seen)
    | some told =>
        cases task with
        | complete other ok =>
            obtain rfl := Option.some.inj ran
            rcases won with held | seen
            · rw [shape, List.mem_cons] at held
              rcases held with same | held
              · cases same
                exact .inr (by simp)
              · exact .inl (by simpa using held)
            · exact .inr (by simp [seen])
        | _ => simp [Task.telling] at telling
  · rcases won with held | seen
    · rw [shape, List.mem_cons] at held
      rcases held with own | held
      · cases own
      · exact .inl (by simpa [beginPass] using held)
    · exact .inr seen
  · exact (environment_flight secured (filed_of_reaches reached).vacant acted).grown.won won

/-- The trace grows, and tells which caller is called back. -/
theorem trace_grows {guard : State → Event → State → Prop}
    (reached : Reaches (step config) guard .initial before)
    (taken : step config before event = some after) :
    before.trace <+: after.trace ∧
      tellingOf after.trace = tellingOf before.trace ++ (before.telling event).toList := by
  have secured := (afloat_of_reaches reached).secured (balanced_of_reaches reached)
  obtain ⟨stack, observations, telling, flight⟩ :=
    step_flight secured (filed_of_reaches reached).vacant taken
  refine ⟨(List.prefix_append _ observations).trans flight.grown.trace, ?_⟩
  rw [flight.grown.silent, State.emit_trace, tellingOf, List.filterMap_append, ← tellingOf,
    ← tellingOf, telling]
  rfl

/-- What is being written was asked for, and is the image of its publication. -/
def Lane.Imaged (lane : Lane) : Prop :=
  ∀ publication ∈ lane.writing, publication ∈ lane.announced ∧
    ∃ ring : Ring, ring.slot publication ∈ lane.slots

theorem Lane.Imaged.reserve {lane : Lane} (imaged : lane.Imaged) {pipelined : Bool} {ring : Ring}
    {publication : Publication} (known : publication ∈ lane.announced) (consumer : Nat) :
    (lane.reserve pipelined ring publication consumer).Imaged := by
  intro other held
  rcases List.mem_append.mp held with old | new
  · obtain ⟨asked, own, placed⟩ := imaged other old
    exact ⟨asked, own, List.mem_append_left _ placed⟩
  · obtain rfl := List.mem_singleton.mp new
    exact ⟨known, ring, List.mem_append_right _ (List.mem_singleton_self _)⟩

theorem Lane.Imaged.move {lane next : Lane} (imaged : lane.Imaged) (faithful : lane.Faithful)
    {pipelined : Bool} {input : Input} {id : Nat} (moved : Lane.Move pipelined input id lane next) :
    next.Imaged := by
  cases moved with
  | turnedAway | accepted =>
      intro publication held
      obtain ⟨asked, placed⟩ := imaged publication held
      exact ⟨List.mem_append_left _ asked, placed⟩
  | @reserved publication rest ring _ shape =>
      have granted : (lane.granted rest).Imaged := imaged
      exact granted.reserve (faithful.known publication (by simp [shape])) _
  | @refreshed publication earlier later ring consumer shape =>
      have read : ({ lane with reading := earlier ++ later } : Lane).Imaged := imaged
      exact read.reserve (faithful.known publication (by simp [shape])) consumer
  | written shape =>
      intro publication held
      refine imaged publication ?_
      rw [shape]
      simp only [List.mem_append, List.mem_cons] at held ⊢
      tauto
  | _ => exact imaged

theorem imaged_of_reaches (reached : Reaches (step config) (Addressed config) .initial state)
    (id : Nat) : (state.lane config id).Imaged := by
  refine reached.induction_on (fun state => (state.lane config id).Imaged) nofun ?_
  intro before event after earlier imaged taken _
  exact imaged.move (faithful_of_reaches earlier id) (step_lane taken id)

/-- The CQEs that have landed, each with its JFC, are those whose callers have been told of a
success. -/
structure Landed (state : State) (landed : List (Nat × Publication)) : Prop where
  distinct : (landed.map fun cqe => cqe.2.call).Nodup
  won_iff : ∀ call, call ∈ landed.map (fun cqe => cqe.2.call) ↔ state.Won call
  imaged : ∀ cqe ∈ landed, cqe.2 ∈ announcedFor cqe.1 state.trace ∧
    ∃ ring : Ring, ring.slot cqe.2 ∈ slotsOf cqe.1 state.trace

theorem Landed.initial : Landed .initial [] :=
  ⟨List.nodup_nil, by simp [State.Won, State.initial], nofun⟩

theorem won_or_landing {call : Nat} (taken : step config before event = some after)
    (won : after.Won call) :
    before.Won call ∨ ∃ cqe, before.landing event = some cqe ∧ cqe.2.call = call := by
  by_cases calls : ∃ id cqe, event = .writeCqe id cqe
  · obtain ⟨id, cqe, rfl⟩ := calls
    obtain rfl := writeCqe_taken taken
    exact .inl ((writeCqe_told before id cqe).1 call won)
  · push Not at calls
    refine ((step_said taken calls).won call won).imp_right fun reported => ?_
    rw [written_of_landing, Option.map_eq_some_iff] at reported
    exact reported

theorem Landed.step {landed : List (Nat × Publication)} (sound : Landed before landed)
    (reached : Reaches (step config) (Addressed config) .initial before)
    (taken : step config before event = some after) :
    Landed after (landed ++ (before.landing event).toList) := by
  have grows := (trace_grows reached taken).1
  have kept : ∀ cqe : Nat × Publication, (cqe.2 ∈ announcedFor cqe.1 before.trace ∧
      ∃ ring : Ring, ring.slot cqe.2 ∈ slotsOf cqe.1 before.trace) →
      cqe.2 ∈ announcedFor cqe.1 after.trace ∧
        ∃ ring : Ring, ring.slot cqe.2 ∈ slotsOf cqe.1 after.trace := by
    rintro cqe ⟨asked, ring, placed⟩
    exact ⟨(grows.filterMap _).subset asked, ring, (grows.filterMap _).subset placed⟩
  cases found : before.landing event with
  | none =>
      simp only [Option.toList_none, List.append_nil]
      refine ⟨sound.distinct, fun call => ?_, fun cqe held => kept cqe (sound.imaged cqe held)⟩
      rw [sound.won_iff]
      refine ⟨won_kept reached taken, fun won => ?_⟩
      rcases won_or_landing taken won with old | ⟨cqe, reported, _⟩
      · exact old
      · simp [found] at reported
  | some cqe =>
      obtain ⟨id, publication⟩ := cqe
      obtain ⟨index, ticket, bytes, rfl, held⟩ := landing_cases found
      have fresh : ¬ before.Won publication.call := by
        intro won
        have distinct := List.nodup_append.mp (callers_nodup (balanced_of_reaches reached))
        refine distinct.2.2 publication.call ?_ publication.call ?_ rfl
        · exact List.mem_filterMap.mpr ⟨_, List.mem_of_getElem? held, rfl⟩
        · exact List.mem_map.mpr ⟨_, (mem_told_iff before _).mpr won, rfl⟩
      simp only [Option.toList_some]
      refine ⟨?_, fun call => ?_, ?_⟩
      · rw [List.map_append, List.nodup_append]
        refine ⟨sound.distinct, by simp, ?_⟩
        rintro call old other new rfl
        obtain rfl : call = publication.call := by simpa using new
        exact fresh ((sound.won_iff _).mp old)
      · rw [List.map_append, List.mem_append, sound.won_iff]
        constructor
        · rintro (old | new)
          · exact won_kept reached taken old
          · obtain rfl : call = publication.call := by simpa using new
            exact landing_won reached taken found
        · intro won
          rcases won_or_landing taken won with old | ⟨cqe, reported, same⟩
          · exact .inl old
          · rw [found, Option.some.injEq] at reported
            subst reported
            exact .inr (by simpa using same.symm)
      · intro cqe member
        rcases List.mem_append.mp member with old | new
        · exact kept cqe (sound.imaged cqe old)
        · obtain rfl := List.mem_singleton.mp new
          refine kept _ (imaged_of_reaches reached id publication ?_)
          exact List.mem_filterMap.mpr ⟨_, List.mem_of_getElem? held, by simp [Callback.writing]⟩

theorem calls_mono {guard : State → Event → State → Prop}
    (reached : Reaches (step config) guard .initial before)
    (taken : step config before event = some after) (allowed : guard before event after) :
    before.calls ≤ after.calls := by
  have earlier := congrArg List.length (calls_of_reaches reached)
  have later := congrArg List.length (calls_of_reaches (reached.tail taken allowed))
  rw [List.length_map, List.length_range] at earlier later
  rw [← earlier, ← later]
  exact ((trace_grows reached taken).1.filterMap _).length_le

/-- Only callers are told. -/
theorem told_called {guard : State → Event → State → Prop}
    (reached : Reaches (step config) guard .initial state) {told : Nat × Bool}
    (member : told ∈ tellingOf state.trace) : told.1 < state.calls := by
  have callers : state.tokens.filterMap Token.caller? +
      (↑(completedOf state.trace) : Multiset Nat) = Multiset.range state.calls :=
    (balanced_of_reaches reached).callers
  rw [← Multiset.mem_range, ← callers, Multiset.mem_add, ← completed_told]
  exact .inr (List.mem_map.mpr ⟨told, member, rfl⟩)

/-! ## Calls for JFCs that exist -/

/-- `WriteCqe` is called for a JFC that exists or is being destroyed. -/
def State.named (state : State) : Event → Bool
  | .writeCqe id _ => (state.jfcs.lookup id).isSome || state.draining id
  | _ => true

def Named (before : State) (event : Event) (_after : State) : Prop := before.named event = true

instance (before : State) (event : Event) (after : State) : Decidable (Named before event after) :=
  inferInstanceAs (Decidable (_ = true))

theorem vacant_of_installs (filed : before.Filed) {id : Nat}
    (installs : id ∈ before.installsJfc event) : before.ring id = none := by
  cases event with
  | fire index ok bytes =>
      cases found : before.outstanding[index]? with
      | none => simp [State.installsJfc, found] at installs
      | some callback =>
          cases callback with
          | contextRead command =>
              simp only [State.installsJfc, found, List.mem_ite_nil_right, Command.installs,
                List.mem_singleton] at installs
              obtain ⟨_, ⟨isCreate, _⟩, rfl⟩ := installs
              exact filed.vacant command (List.mem_of_getElem? found) isCreate
          | _ => simp [State.installsJfc, found] at installs
  | _ => simp [State.installsJfc] at installs

/-- Then no JFC is created while publications for its number wait. -/
theorem addressed_of_named (reached : Reaches (step config) Named .initial state) :
    Reaches (step config) (Addressed config) .initial state := by
  induction reached with
  | refl => exact .refl
  | @tail before after event earlier taken named inductionHypothesis =>
      refine .tail inductionHypothesis taken ⟨?_, fun id installs => ?_⟩
      · have allowed : before.named event = true := named
        cases event with
        | writeCqe id cqe =>
            simp only [State.named, Bool.or_eq_true] at allowed
            simp only [State.addressed, Bool.or_eq_true]
            tauto
        | _ => rfl
      · by_contra waiting
        have present := present_of_named (fun before id cqe after named => by
          simpa [Named, State.named] using named) earlier id waiting
        simp [vacant_of_installs (filed_of_reaches earlier) installs] at present

end Udma.Cq
