import Udma.Cq.Lane

/-!
# Wakeups of the pump

`PumpCompletionWork` and the loop of `ProcessJfcPublications` swallow calls that
re-enter them, and leave a mark for the activation that is already running.  The
activations of the pump are its frames on the stack.  A step of any other
activation, and of a party outside, either leaves alone what the pump looks at, or
rings the alarm: a frame, a mark or an activation that will call the pump.
-/

namespace Udma.Cq

open Udma.Abi Udma.Arithmetic Udma.Collections

/-- The activations of the pump. -/
def Task.frame : Task → Bool
  | .pumpPass | .pumpTimers _ | .pumpQueues _ | .processJfcPublications _
  | .admitJfcPublications _ | .leaveJfcPublications _ => true
  | _ => false

/-- Activations after which the pump looks at everything. -/
def Task.kicks : Task → Bool
  | .pumpCompletionWork | .pumpPass | .releasePublication _ | .releaseCompletionEventSlot _ => true
  | _ => false

/-- Activations after which the pump looks at the publications of JFC `id`. -/
def Task.attends (id : Nat) : Task → Bool
  | .pumpTimers _ => true
  | .pumpQueues ids => ids.contains id
  | .processJfcPublications own | .admitJfcPublications own => own == id
  | task => task.kicks

/-- Activations after which the pump looks at the timer of JFC `id`. -/
def Task.times (id : Nat) : Task → Bool
  | .pumpTimers expired => expired.contains id
  | task => task.kicks

theorem Task.attends_of_kicks {task : Task} (kicks : task.kicks = true) (id : Nat) :
    task.attends id = true := by
  cases task <;> first | exact kicks | simp [Task.kicks] at kicks

theorem Task.times_of_kicks {task : Task} (kicks : task.kicks = true) (id : Nat) :
    task.times id = true := by
  cases task <;> first | exact kicks | simp [Task.kicks] at kicks

namespace State

def alarmed (state : State) : Bool := state.completionWorkKick || state.stack.any Task.kicks

/-- The pump will look at the publications of JFC `id`. -/
def attends (state : State) (id : Nat) : Bool :=
  state.completionWorkKick || state.stack.any (Task.attends id)

/-- The pump will look at the timer of JFC `id`. -/
def times (state : State) (id : Nat) : Bool :=
  state.completionWorkKick || state.stack.any (Task.times id)

variable {state : State}

theorem attends_of_alarmed (alarmed : state.alarmed = true) (id : Nat) :
    state.attends id = true := by
  simp only [State.alarmed, State.attends, Bool.or_eq_true, List.any_eq_true] at alarmed ⊢
  exact alarmed.imp_right fun ⟨task, held, kicks⟩ => ⟨task, held, Task.attends_of_kicks kicks id⟩

theorem times_of_alarmed (alarmed : state.alarmed = true) (id : Nat) : state.times id = true := by
  simp only [State.alarmed, State.times, Bool.or_eq_true, List.any_eq_true] at alarmed ⊢
  exact alarmed.imp_right fun ⟨task, held, kicks⟩ => ⟨task, held, Task.times_of_kicks kicks id⟩

theorem alarmed_of_mem {task : Task} (held : task ∈ state.stack) (kicks : task.kicks = true) :
    state.alarmed = true := by
  rw [State.alarmed, Bool.or_eq_true, List.any_eq_true]
  exact .inr ⟨task, held, kicks⟩

theorem attends_of_mem {task : Task} {id : Nat} (held : task ∈ state.stack)
    (attends : task.attends id = true) : state.attends id = true := by
  rw [State.attends, Bool.or_eq_true, List.any_eq_true]
  exact .inr ⟨task, held, attends⟩

theorem times_of_mem {task : Task} {id : Nat} (held : task ∈ state.stack)
    (times : task.times id = true) : state.times id = true := by
  rw [State.times, Bool.or_eq_true, List.any_eq_true]
  exact .inr ⟨task, held, times⟩

end State

/-! ## Steps beside the pump -/

/-- The frames of the pump stay where they are; `events` allows a change of the flag of
the event loop. -/
structure Pushes (events : Bool) (state after : State) : Prop where
  stack : ∃ tasks, after.stack = tasks ++ state.stack ∧ ∀ task ∈ tasks, task.frame = false
  kick : after.completionWorkKick = state.completionWorkKick
  dispatching : after.completionWorkDispatching = state.completionWorkDispatching
  looping : events = false →
    after.completionEventDispatching = state.completionEventDispatching

/-- What the pump looks at stays as it is, apart from the rings of the JFCs in `touched`. -/
structure Still (events : Bool) (touched : List Nat) (state after : State) : Prop
    extends pushes : Pushes events state after where
  slots : after.completionEventSlotsInUse = state.completionEventSlotsInUse
  now : after.now = state.now
  queues : after.jfcPublications = state.jfcPublications
  rings : ∀ id, after.ring id = state.ring id ∨ after.ring id = none ∨ id ∈ touched
  timers : ∀ id jfc, after.jfcs.lookup id = some jfc → jfc.moderating = true →
    ∃ old, state.jfcs.lookup id = some old ∧ old.moderating = true ∧
      old.moderationDeadline = jfc.moderationDeadline

/-- The alarm is rung. -/
structure Roused (events : Bool) (state after : State) : Prop
    extends pushes : Pushes events state after where
  alarmed : after.alarmed = true
  marks : ∀ id queue, after.jfcPublications.lookup id = some queue → queue.dispatching = true →
    ∃ old, state.jfcPublications.lookup id = some old ∧ old.dispatching = true

/-- A step beside the pump. -/
def Beside (events : Bool) (touched : List Nat) (state after : State) : Prop :=
  Still events touched state after ∨ Roused events state after

section

variable {events : Bool} {touched : List Nat} {state changed after : State}

theorem Pushes.refl (events : Bool) (state : State) : Pushes events state state :=
  ⟨⟨[], rfl, by simp⟩, rfl, rfl, fun _ => rfl⟩

theorem Pushes.then_push (pushes : Pushes events state changed) {tasks : List Task}
    (plain : tasks.all (fun task => !task.frame) = true) :
    Pushes events state (changed.push tasks) :=
  { pushes with
    stack := by
      obtain ⟨earlier, shape, quiet⟩ := pushes.stack
      refine ⟨tasks ++ earlier, by rw [State.push_stack, shape, List.append_assoc], ?_⟩
      intro task membership
      rcases List.mem_append.mp membership with new | old
      · simpa using List.all_eq_true.mp plain task new
      · exact quiet task old }

theorem Pushes.then_call (pushes : Pushes events state changed) (callback : Callback) :
    Pushes events state (changed.call callback) :=
  { pushes.then_push (show [Task.external].all (fun task => !task.frame) = true from rfl) with }

namespace Still

theorem refl (events : Bool) (touched : List Nat) (state : State) :
    Still events touched state state where
  pushes := Pushes.refl events state
  slots := rfl
  now := rfl
  queues := rfl
  rings := fun _ => .inl rfl
  timers := fun _ jfc found moderating => ⟨jfc, found, moderating, rfl⟩

theorem then_push (still : Still events touched state changed) {tasks : List Task}
    (plain : tasks.all (fun task => !task.frame) = true) :
    Still events touched state (changed.push tasks) :=
  { still with pushes := still.pushes.then_push plain }

theorem then_emit (still : Still events touched state changed) (observations : List Observation) :
    Still events touched state (changed.emit observations) := { still with }

theorem then_call (still : Still events touched state changed) (callback : Callback) :
    Still events touched state (changed.call callback) :=
  { still with pushes := still.pushes.then_call callback }

theorem then_writeBack (still : Still events touched state changed) (command : Command)
    (status : Nat) : Still events touched state (finishUbaseDescriptor changed command status) :=
  (still.then_emit _).then_call _

/-- Another context for JFC `id`, with the same timer. -/
theorem then_setJfc (still : Still events touched state changed) {id : Nat} {old new : Jfc}
    (found : changed.jfcs.lookup id = some old) (own : id ∈ touched ∨ new.ring = old.ring)
    (pending : new.pendingCompletions = old.pendingCompletions)
    (deadline : new.moderationDeadline = old.moderationDeadline) :
    Still events touched state (changed.setJfc id new) :=
  { still with
    rings := by
      intro other
      by_cases same : other = id
      · subst same
        rcases own with inside | unchanged
        · exact .inr (.inr inside)
        · have ring : (changed.setJfc other new).ring other = changed.ring other := by
            simp [State.ring, found, unchanged]
          rw [ring]
          exact still.rings other
      · have ring : (changed.setJfc id new).ring other = changed.ring other := by
          simp [State.ring, AList.lookup_insert_ne same]
        rw [ring]
        exact still.rings other
    timers := by
      intro other jfc present moderating
      by_cases same : other = id
      · subst same
        rw [State.setJfc_jfcs, AList.lookup_insert, Option.some.injEq] at present
        subst present
        have before : old.moderating = true := by
          simpa [Jfc.moderating, pending, deadline] using moderating
        obtain ⟨first, held, moderated, same⟩ := still.timers other old found before
        exact ⟨first, held, moderated, same.trans deadline.symm⟩
      · rw [State.setJfc_jfcs, AList.lookup_insert_ne same] at present
        exact still.timers other jfc present moderating }

end Still

theorem Roused.of_push (pushes : Pushes events state changed) {tasks : List Task}
    (plain : tasks.all (fun task => !task.frame) = true) (rings : tasks.any Task.kicks = true)
    (marks : ∀ id queue, changed.jfcPublications.lookup id = some queue →
      queue.dispatching = true →
      ∃ old, state.jfcPublications.lookup id = some old ∧ old.dispatching = true) :
    Roused events state (changed.push tasks) where
  pushes := pushes.then_push plain
  alarmed := by simp [State.alarmed, List.any_append, rings]
  marks := marks

/-- The alarm after a step that leaves the queues alone. -/
theorem Pushes.rouse (pushes : Pushes events state changed) {tasks : List Task}
    (plain : tasks.all (fun task => !task.frame) = true) (rings : tasks.any Task.kicks = true)
    (queues : changed.jfcPublications = state.jfcPublications) :
    Roused events state (changed.push tasks) :=
  .of_push pushes plain rings fun _ queue found marked => ⟨queue, queues ▸ found, marked⟩

end

/-! ## Publications -/

section Functions

variable {config : Config} {state : State}

theorem Jfc.lookup_of_ring {id : Nat} {jfc : Jfc} (found : state.jfcs.lookup id = some jfc) :
    state.ring id = some jfc.ring := by simp [State.ring, found]

theorem reserveCqe_still (config : Config) (state : State) (id : Nat) {jfc : Jfc} (consumer : Nat)
    (found : state.jfcs.lookup id = some jfc) :
    Still false [id] state (reserveCqe config state id jfc consumer) := by
  have changed : ∀ new : Jfc, new.pendingCompletions = jfc.pendingCompletions →
      new.moderationDeadline = jfc.moderationDeadline → Still false [id] state (state.setJfc id new) :=
    fun new => (Still.refl false [id] state).then_setJfc found (.inl (by simp))
  unfold reserveCqe
  split
  next =>
    have reserved := changed
      { jfc with consumer := consumer, cqeWritePending := true, producer := jfc.producer + 1 } rfl rfl
    exact { reserved with }
  next => exact changed _ rfl rfl

theorem finish_beside (state : State) (touched : List Nat) (ticket id call : Nat) (ok : Bool) :
    Beside false touched state (state.push (finish ticket id call ok)) :=
  .inr ((Pushes.refl false state).rouse rfl rfl rfl)

theorem publish_beside (config : Config) (state : State) (ticket id : Nat)
    (publication : Publication) (consumer : Option Nat) :
    Beside false [id] state (publish config state ticket id publication consumer) := by
  unfold publish
  split
  next consumer jfc found =>
    split
    next => exact finish_beside state _ ticket id _ false
    next => exact .inl (((reserveCqe_still config state id consumer found).then_emit _).then_call _)
  next => exact finish_beside state _ ticket id _ false

theorem writeCqeNow_beside (config : Config) (state : State) (ticket id : Nat)
    (publication : Publication) :
    Beside false [id] state (writeCqeNow config state ticket id publication) := by
  unfold writeCqeNow
  split
  next => exact finish_beside state _ ticket id _ false
  next =>
    split
    next => exact publish_beside config state ticket id publication _
    next => exact .inl ((Still.refl false [id] state).then_call _)

theorem moderate_beside {changed : State} (pushes : Pushes false state changed)
    (queues : changed.jfcPublications = state.jfcPublications) (touched : List Nat)
    (ticket id call : Nat) (jfc : Jfc) :
    Beside false touched state (moderate changed ticket id call jfc) := by
  unfold moderate
  split
  next =>
    refine .inr (Pushes.rouse ?_ rfl rfl queues)
    exact { pushes with }
  next =>
    refine .inr (Pushes.rouse ?_ rfl rfl queues)
    exact { pushes with }

theorem cqeWritten_beside (config : Config) (state : State) (touched : List Nat) (ticket id : Nat)
    (publication : Publication) (ok : Bool) :
    Beside false touched state (cqeWritten config state ticket id publication ok) := by
  have pushes := Pushes.refl false state
  unfold cqeWritten
  split
  next => exact finish_beside state _ ticket id _ false
  next jfc _ =>
    split
    next =>
      split
      next => exact finish_beside state _ ticket id _ false
      next => exact finish_beside state _ ticket id _ false
      next left _ =>
        have settled : Pushes false state (settleCqe state id jfc left) := { pushes with }
        split
        next => exact moderate_beside settled rfl touched ticket id _ _
        next => exact .inr (settled.rouse rfl rfl rfl)
    next =>
      split
      next => exact moderate_beside pushes rfl touched ticket id _ _
      next =>
        refine .inr (Pushes.rouse ?_ rfl rfl rfl)
        exact { pushes with }

theorem writeCqe_beside (state : State) (touched : List Nat) (id : Nat) (cqe : Cqe) :
    Beside false touched state (writeCqe state id cqe) := by
  unfold writeCqe
  simp only
  split
  next =>
    refine .inl (Still.then_push ?_ rfl)
    exact { Still.refl false touched state with }
  next =>
    refine .inr (.of_push ?_ rfl rfl ?_)
    · exact { Pushes.refl false state with }
    intro other queue found marked
    by_cases same : other = id
    · subst same
      simp only [State.emit_jfcPublications, State.setQueue_jfcPublications, AList.lookup_insert,
        Option.some.injEq] at found
      subst found
      cases present : state.jfcPublications.lookup other with
      | none => simp [present] at marked
      | some old => exact ⟨old, rfl, by simpa [present] using marked⟩
    · simp only [State.emit_jfcPublications, State.setQueue_jfcPublications,
        AList.lookup_insert_ne same] at found
      exact ⟨queue, found, marked⟩

theorem releasePublication_roused (config : Config) (state : State) (id : Nat) :
    Roused false state (releasePublication config state id) := by
  unfold releasePublication
  split
  next => exact (Pushes.refl false state).rouse rfl rfl rfl
  next queue present =>
    refine .of_push ?_ rfl rfl ?_
    · exact { Pushes.refl false state with }
    intro other next found marked
    by_cases same : other = id
    · subst same
      simp only [State.setQueue_jfcPublications, AList.lookup_insert, Option.some.injEq] at found
      subst found
      refine ⟨queue, present, ?_⟩
      unfold PublicationQueue.released at marked
      split at marked
      next => exact marked
      next => exact marked
    · simp only [State.setQueue_jfcPublications, AList.lookup_insert_ne same] at found
      exact ⟨next, found, marked⟩

theorem releaseCompletionEventSlot_roused (state : State) (ticket : Nat) :
    Roused false state (releaseCompletionEventSlot state ticket) := by
  unfold releaseCompletionEventSlot
  refine Pushes.rouse ?_ rfl rfl rfl
  exact { Pushes.refl false state with }

/-! ## Events -/

theorem emitCompletionEvent_beside (config : Config) (state : State) (touched : List Nat)
    (ticket id : Nat) :
    Beside false touched state (emitCompletionEvent config state ticket id) := by
  unfold emitCompletionEvent
  split
  next => exact .inr ((Pushes.refl false state).rouse rfl rfl rfl)
  next =>
    simp only
    split
    next =>
      refine .inr (Pushes.rouse ?_ rfl rfl (by split <;> rfl))
      split
      next => exact { Pushes.refl false state with }
      next => exact Pushes.refl false state
    next =>
      refine .inl (Still.then_push (Still.then_emit ?_ _) rfl)
      split
      next => exact { Still.refl false touched state with }
      next => exact { Still.refl false touched state with }

theorem processCompletionEvent_still (state : State) (touched : List Nat) :
    Still true touched state (processCompletionEvent state) := by
  unfold processCompletionEvent
  split
  next => exact Still.refl true touched state
  next =>
    refine Still.then_push ?_ rfl
    exact { Still.refl true touched state with looping := nofun }

theorem dispatchCompletionEvents_beside (state : State) (touched : List Nat) :
    Beside true touched state (dispatchCompletionEvents state) := by
  have leaves : Still true touched state (leaveCompletionEvents state) := by
    refine Still.then_push ?_ rfl
    exact { Still.refl true touched state with looping := nofun }
  unfold dispatchCompletionEvents
  split
  next => exact .inl leaves
  next =>
    split
    next => exact .inl leaves
    next =>
      simp only
      split
      next =>
        refine .inr (Pushes.rouse ?_ rfl rfl rfl)
        exact { Pushes.refl true state with }
      next =>
        refine .inl (Still.then_call (Still.then_emit ?_ _) _)
        have taken : Still true touched state (state.push [.dispatchCompletionEvents]) :=
          (Still.refl true touched state).then_push rfl
        exact { taken with }

theorem ceqeWritten_beside (state : State) (touched : List Nat) (ticket ceqId : Nat) (ok : Bool) :
    Beside false touched state (ceqeWritten state ticket ceqId ok) := by
  unfold ceqeWritten
  simp only
  split
  next =>
    refine .inl (Still.then_emit ?_ _)
    exact { Still.refl false touched state with }
  next =>
    split
    next =>
      refine .inl (Still.then_call ?_ _)
      exact { Still.refl false touched state with }
    next =>
      refine .inr (Pushes.rouse ?_ rfl rfl rfl)
      exact { Pushes.refl false state with }

theorem interruptRaised_beside (state : State) (touched : List Nat) (ticket : Nat) :
    Beside false touched state (interruptRaised state ticket) := by
  unfold interruptRaised
  refine .inr (Pushes.rouse ?_ rfl rfl rfl)
  exact { Pushes.refl false state with }

/-! ## Commands and doorbells -/

theorem queryRead_still (state : State) (command : Command) (ok : Bool) (bytes : Bytes) :
    Still false [command.tag] state (queryRead state command ok bytes) := by
  have same := Still.refl false [command.tag] state
  rcases queryRead_cases state command ok bytes with shape | ⟨jfc, found, _, _, shape⟩
  · rw [shape]
    exact same.then_writeBack command 5
  · rw [shape]
    refine Still.then_call ?_ _
    exact same.then_setJfc found (.inl (by simp)) rfl rfl

theorem Issued.still {after : State} (issued : Issued state after) (touched : List Nat) :
    Still false touched state after := by
  cases issued with
  | read callback => exact (Still.refl false touched state).then_call callback
  | writeBack command status => exact (Still.refl false touched state).then_writeBack command status

theorem decodeJfc_unmoderated {context : Bytes} {generation : Nat} {jfc : Jfc}
    (decoded : decodeJfc context generation = some jfc) : jfc.moderating = false := by
  unfold decodeJfc at decoded
  simp only at decoded
  split at decoded
  next => simp at decoded
  next =>
    obtain rfl := Option.some.inj decoded
    rfl

theorem decodeJfc_isSome (context : Bytes) (generation other : Nat) :
    (decodeJfc context generation).isSome = (decodeJfc context other).isSome := by
  unfold decodeJfc
  simp only
  split <;> rfl

/-- The JFC that the context of a create command installs. -/
def Command.installs (command : Command) (context : Bytes) : List Nat :=
  if command.opcode = .createJfc ∧ (decodeJfc context 0).isSome then [command.tag] else []

theorem applyUbaseMailbox_still (state : State) (command : Command) (context : Bytes) :
    Still false (command.installs context) state (applyUbaseMailbox state command context) := by
  have same := Still.refl false (command.installs context) state
  unfold applyUbaseMailbox
  split
  next =>
    split
    next => exact same.then_writeBack command 22
    next =>
      refine Still.then_writeBack ?_ command 0
      exact { same with }
  next isCreate =>
    split
    next => exact same.then_writeBack command 22
    next jfc decoded =>
      have fresh := decodeJfc_unmoderated decoded
      have installs : command.installs context = [command.tag] := by
        rw [Command.installs, decodeJfc_isSome context 0 state.generations, decoded]
        exact if_pos ⟨isCreate, rfl⟩
      have created : Still false (command.installs context) state
          (state.setJfc command.tag jfc) :=
        { same with
          rings := by
            intro other
            by_cases own : other = command.tag
            · exact .inr (.inr (by simp [installs, own]))
            · exact .inl (by simp [State.ring, AList.lookup_insert_ne own])
          timers := by
            intro other next present moderating
            by_cases own : other = command.tag
            · subst own
              rw [State.setJfc_jfcs, AList.lookup_insert, Option.some.injEq] at present
              subst present
              simp [fresh] at moderating
            · rw [State.setJfc_jfcs, AList.lookup_insert_ne own] at present
              exact ⟨next, present, moderating, rfl⟩ }
      refine Still.then_writeBack ?_ command 0
      exact { created with }
  next =>
    split
    next => exact same.then_writeBack command 2
    next jfc found =>
      refine Still.then_writeBack ?_ command 0
      exact same.then_setJfc found (.inr rfl) rfl rfl
  all_goals exact same.then_writeBack command 0

theorem contextRead_still (state : State) (command : Command) (ok : Bool) (bytes : Bytes) :
    Still false (if ok && bytes.length == command.opcode.contextBytes then command.installs bytes
      else []) state (contextRead state command ok bytes) := by
  unfold contextRead
  split
  next => exact applyUbaseMailbox_still state command bytes
  next => exact (Still.refl _ _ state).then_writeBack command 5

theorem queryWritten_still (state : State) (command : Command) (ok : Bool) :
    Still false [] state (queryWritten state command ok) := by
  have same := Still.refl false [] state
  unfold queryWritten
  split
  next =>
    have applied := applyUbaseMailbox_still state command []
    have none : command.installs [] = [] := by simp [Command.installs, decodeJfc_nil]
    rwa [none] at applied
  next => exact same.then_writeBack command 5

theorem Handled.still {command : Command} {after : State}
    (handled : Handled config state command after) : Still false [] state after := by
  have same := Still.refl false [] state
  cases handled with
  | issued issued => exact issued.still []
  | creating | creatingCeq => exact same.then_call _
  | deferredCeq | deferredJfc => exact { same with }
  | erasedCeq =>
      refine Still.then_writeBack ?_ command 0
      exact { same with }
  | erasedJfc =>
      refine Still.then_writeBack ?_ command 0
      exact
        { same with
          rings := by
            intro other
            by_cases own : other = command.tag
            · subst own
              exact .inr (.inl (by simp [State.ring, eraseJfc]))
            · exact .inl (by simp [State.ring, eraseJfc, AList.lookup_erase_ne own])
          timers := by
            intro other jfc present moderating
            by_cases own : other = command.tag
            · subst own
              simp [eraseJfc] at present
            · rw [eraseJfc, AList.lookup_erase_ne own] at present
              exact ⟨jfc, present, moderating, rfl⟩ }

theorem maybeCompleteJfcDestroy_still (config : Config) (state : State) :
    Still false [] state (maybeCompleteJfcDestroy config state) := by
  unfold maybeCompleteJfcDestroy
  split
  next => exact Still.refl false [] state
  next command _ =>
    split
    next => exact Still.refl false [] state
    next =>
      have handled := (handleUbaseMailbox_handled config
        { state with pendingJfcDestroy := none, drainingJfcId := none } command).still
      exact { handled with }

theorem maybeCompleteEqDestroy_still (config : Config) (state : State) :
    Still false [] state (maybeCompleteEqDestroy config state) := by
  unfold maybeCompleteEqDestroy
  split
  next => exact Still.refl false [] state
  next command _ =>
    split
    next => exact Still.refl false [] state
    next =>
      have handled := (handleUbaseMailbox_handled config
        { state with pendingEqDestroy := none, drainingCeqId := none } command).still
      exact { handled with }

theorem ceqDoorbell_still (state : State) (value : Nat) :
    Still false [] state (ceqDoorbell state value) := by
  unfold ceqDoorbell
  simp only
  split
  next => exact Still.refl false [] state
  next =>
    split
    next => exact Still.refl false [] state
    next =>
      refine Still.then_push ?_ rfl
      exact { Still.refl false [] state with }

theorem jfcDoorbell_still (config : Config) (state : State) (value : Nat) :
    Still false [] state (jfcDoorbell config state value) := by
  unfold jfcDoorbell
  simp only
  split
  next =>
    refine Still.then_emit ?_ _
    exact { Still.refl false [] state with }
  next => exact Still.refl false [] state

/-! ## Steps -/

/-- Whether the activation may change the flag of the event loop. -/
def Task.loops : Task → Bool
  | .processCompletionEvent | .dispatchCompletionEvents => true
  | _ => false

/-- The end of a publication and the return of a slot. -/
theorem runTask_roused {task : Task} {after : State} (kicks : task.kicks = true)
    (away : task ≠ .pumpCompletionWork) (ran : runTask config state task = some after) :
    Roused false state after := by
  cases task with
  | pumpCompletionWork => exact absurd rfl away
  | pumpPass => simp [runTask] at ran
  | releasePublication id =>
      obtain rfl := Option.some.inj ran
      exact releasePublication_roused config state id
  | releaseCompletionEventSlot ticket =>
      obtain rfl := Option.some.inj ran
      exact releaseCompletionEventSlot_roused state ticket
  | _ => simp [Task.kicks] at kicks

/-- Activations that are not about the pump. -/
theorem runTask_beside {task : Task} {after : State} (other : task.frame = false)
    (quiet : task.kicks = false) (ran : runTask config state task = some after) :
    Beside task.loops [] state after := by
  cases task with
  | external =>
      obtain rfl := Option.some.inj ran
      exact .inl (Still.refl _ [] state)
  | pumpCompletionWork | releasePublication _ | releaseCompletionEventSlot _ =>
      simp [Task.kicks] at quiet
  | complete call ok =>
      obtain rfl := Option.some.inj ran
      exact .inl (((Still.refl _ [] state).then_emit _).then_push rfl)
  | emitCompletionEvent ticket id =>
      obtain rfl := Option.some.inj ran
      exact emitCompletionEvent_beside config state [] ticket id
  | processCompletionEvent =>
      obtain rfl := Option.some.inj ran
      exact .inl (processCompletionEvent_still state [])
  | dispatchCompletionEvents =>
      obtain rfl := Option.some.inj ran
      exact dispatchCompletionEvents_beside state []
  | maybeCompleteJfcDestroy =>
      obtain rfl := Option.some.inj ran
      exact .inl (maybeCompleteJfcDestroy_still config state)
  | maybeCompleteEqDestroy =>
      obtain rfl := Option.some.inj ran
      exact .inl (maybeCompleteEqDestroy_still config state)
  | _ => simp [Task.frame] at other

/-- The JFCs whose ring a callback may change. -/
def Callback.touches (ok : Bool) (bytes : Bytes) : Callback → List Nat
  | .consumerRead _ id _ => [id]
  | .queryRead command => [command.tag]
  | .contextRead command =>
      if ok && bytes.length == command.opcode.contextBytes then command.installs bytes else []
  | _ => []

theorem runCallback_beside (config : Config) (state : State) (ok : Bool) (bytes : Bytes)
    (callback : Callback) :
    Beside false (callback.touches ok bytes) state (runCallback config state ok bytes callback) := by
  cases callback with
  | consumerRead ticket id publication => exact publish_beside config state ticket id publication _
  | cqeWritten ticket id publication =>
      exact cqeWritten_beside config state _ ticket id publication ok
  | ceqeWritten ticket ceqId vector => exact ceqeWritten_beside state _ ticket ceqId ok
  | interruptRaised ticket => exact interruptRaised_beside state _ ticket
  | contextRead command => exact .inl (contextRead_still state command ok bytes)
  | queryRead command => exact .inl (queryRead_still state command ok bytes)
  | queryWritten command => exact .inl (queryWritten_still state command ok)
  | descriptorWritten => exact .inl { Still.refl false [] state with }

/-- The JFCs whose ring an event may change. -/
def State.touches (state : State) : Event → List Nat
  | .fire index ok bytes => ((state.outstanding[index]?).map (Callback.touches ok bytes)).getD []
  | _ => []

theorem environment_beside {event : Event} {after : State}
    (acted : environment config state event = some after) :
    Beside false (state.touches event) state after := by
  cases event with
  | run => simp [environment] at acted
  | beginPass expired => simp [environment] at acted
  | fire index ok bytes =>
      simp only [environment] at acted
      cases found : state.outstanding[index]? with
      | none => simp [found] at acted
      | some callback =>
          simp only [found, Option.some.injEq] at acted
          subst acted
          have touches : state.touches (.fire index ok bytes) = callback.touches ok bytes := by
            simp [State.touches, found]
          rw [touches]
          rcases runCallback_beside config
            (state.withOutstanding (state.outstanding.eraseIdx index)) ok bytes callback with
            still | roused
          · exact .inl { still with }
          · exact .inr { roused with }
  | writeCqe id cqe =>
      obtain rfl := Option.some.inj acted
      exact writeCqe_beside state _ id cqe
  | mailbox command =>
      simp only [environment] at acted
      split at acted
      next => simp at acted
      next =>
        obtain rfl := Option.some.inj acted
        have handled :=
          (handleUbaseMailbox_handled config { state with ubaseBusy := true } command).still
        exact .inl { handled with }
  | ceqDoorbell value =>
      obtain rfl := Option.some.inj acted
      exact .inl (ceqDoorbell_still state value)
  | jfcDoorbell value =>
      obtain rfl := Option.some.inj acted
      exact .inl (jfcDoorbell_still config state value)
  | advanceTime now =>
      simp only [environment] at acted
      split at acted
      next =>
        obtain rfl := Option.some.inj acted
        exact .inl (Still.refl false _ state)
      next =>
        obtain rfl := Option.some.inj acted
        refine .inr (Pushes.rouse ?_ rfl rfl rfl)
        exact { Pushes.refl false state with }

end Functions

end Udma.Cq
