import Udma.Cq.Credit
import Udma.Cq.Pump

/-!
# Work conservation

The event loop swallows calls as the pump does: a call is lost only if the loop is
running or an event is in progress, and both end with another look at the queue.
With the pump this gives work conservation: when nothing of the engine is running,
whatever waits does so for a reason.
-/

namespace Udma.Cq

open Udma.Abi Udma.Arithmetic Udma.Collections Udma.Transition

variable {config : Config} {state before after : State} {event : Event}

/-! ## The event loop -/

/-- The event loop will look at the queue of events. -/
def State.listens (state : State) : Bool :=
  state.completionEventBusy || state.stack.any Task.loops

structure State.Delivering (state : State) : Prop where
  looping : state.completionEventDispatching = true → .dispatchCompletionEvents ∈ state.stack
  events : ∀ event ∈ state.completionEvents, state.eligible event = true → state.listens = true

/-- The activations below go on, and the flag of the event loop stays. -/
structure Onward (state after : State) : Prop where
  stack : state.stack ⊆ after.stack
  looping : after.completionEventDispatching = state.completionEventDispatching

theorem Onward.refl (state : State) : Onward state state := ⟨List.Subset.refl _, rfl⟩

theorem Pushes.onward (pushes : Pushes false state after) : Onward state after :=
  ⟨pushes.subset, pushes.looping rfl⟩

theorem Beside.onward {touched : List Nat} (beside : Beside false touched state after) :
    Onward state after := by
  rcases beside with still | roused
  · exact still.pushes.onward
  · exact roused.pushes.onward

theorem State.listens_of_mem {task : Task} (held : task ∈ state.stack) (loops : task.loops = true) :
    state.listens = true := by
  rw [State.listens, Bool.or_eq_true, List.any_eq_true]
  exact .inr ⟨task, held, loops⟩

theorem State.listens_of_busy (busy : state.completionEventBusy = true) : state.listens = true := by
  rw [State.listens, busy, Bool.true_or]

theorem Onward.listens (onward : Onward state after)
    (busy : after.completionEventBusy = state.completionEventBusy)
    (listens : state.listens = true) : after.listens = true := by
  rw [State.listens, Bool.or_eq_true, List.any_eq_true] at listens
  rcases listens with occupied | ⟨task, held, loops⟩
  · exact State.listens_of_busy (busy.trans occupied)
  · exact State.listens_of_mem (onward.stack held) loops

namespace State.Delivering

/-- A step that wakes the event loop. -/
theorem of_listens (delivering : state.Delivering) (onward : Onward state after)
    (listens : after.listens = true) : after.Delivering where
  looping := by
    rw [onward.looping]
    exact fun flag => onward.stack (delivering.looping flag)
  events := fun _ _ _ => listens

/-- A step after which no further event is eligible. -/
theorem of_eligible (delivering : state.Delivering) (onward : Onward state after)
    (busy : after.completionEventBusy = state.completionEventBusy)
    (events : after.completionEvents = state.completionEvents)
    (eligible : ∀ event ∈ state.completionEvents, after.eligible event = true →
      state.eligible event = true ∨ state.listens = true) : after.Delivering where
  looping := by
    rw [onward.looping]
    exact fun flag => onward.stack (delivering.looping flag)
  events := by
    intro event membership ready
    rw [events] at membership
    refine onward.listens busy ?_
    rcases eligible event membership ready with old | awake
    · exact delivering.events event membership old
    · exact awake

/-- A step that leaves the event engine alone. -/
theorem of_desk (delivering : state.Delivering) (onward : Onward state after)
    (desk : after.desk = state.desk) : after.Delivering := by
  have ceqs : after.ceqs = state.ceqs := congrArg Desk.ceqs desk
  refine delivering.of_eligible onward (congrArg Desk.busy desk) (congrArg Desk.events desk) ?_
  intro event _ ready
  rw [State.eligible, ceqs] at ready
  exact .inl ready

/-- An activation beside the event loop has been taken off the stack. -/
theorem pop {task : Task} {rest : List Task} (delivering : before.Delivering)
    (shape : before.stack = task :: rest) (other : task.loops = false) :
    (before.withStack rest).Delivering where
  looping := by
    intro flag
    have held := delivering.looping flag
    rw [shape] at held
    refine (List.mem_cons.mp held).resolve_left ?_
    rintro rfl
    simp [Task.loops] at other
  events := by
    intro event membership ready
    have listens := delivering.events event membership ready
    rw [State.listens, Bool.or_eq_true, List.any_eq_true, shape] at listens
    rcases listens with busy | ⟨held, membership, loops⟩
    · exact State.listens_of_busy busy
    · rcases List.mem_cons.mp membership with rfl | below
      · simp [other] at loops
      · exact State.listens_of_mem below loops

end State.Delivering

/-! ## Its functions -/

theorem emitCompletionEvent_delivering (delivering : state.Delivering) (config : Config)
    (ticket id : Nat) : (emitCompletionEvent config state ticket id).Delivering := by
  have onward := (emitCompletionEvent_beside config state [] ticket id).onward
  unfold emitCompletionEvent at onward ⊢
  split
  next => exact delivering.of_desk ⟨List.subset_append_right _ _, rfl⟩ rfl
  next unarmed =>
    rw [if_neg unarmed] at onward
    simp only at onward ⊢
    split
    next missing =>
      simp only [missing] at onward
      refine delivering.of_desk onward ?_
      split <;> rfl
    next ceqId found =>
      simp only [found] at onward
      exact delivering.of_listens onward (State.listens_of_mem List.mem_cons_self rfl)

theorem processCompletionEvent_delivering {rest : List Task} (delivering : before.Delivering)
    (shape : before.stack = .processCompletionEvent :: rest) :
    (processCompletionEvent (before.withStack rest)).Delivering := by
  have below : before.completionEventDispatching = true → .dispatchCompletionEvents ∈ rest := by
    intro flag
    have held := delivering.looping flag
    rw [shape] at held
    exact (List.mem_cons.mp held).resolve_left (by simp)
  unfold processCompletionEvent
  split
  next swallowed =>
    refine ⟨below, fun event _ _ => ?_⟩
    rcases swallowed with busy | looping
    · exact State.listens_of_busy busy
    · exact State.listens_of_mem (below looping) rfl
  next =>
    exact ⟨fun _ => List.mem_cons_self, fun _ _ _ => State.listens_of_mem List.mem_cons_self rfl⟩

theorem dispatchCompletionEvents_delivering (state : State) :
    (dispatchCompletionEvents state).Delivering := by
  unfold dispatchCompletionEvents
  split
  next busy => exact ⟨by simp [leaveCompletionEvents], fun _ _ _ => State.listens_of_busy busy⟩
  next =>
    split
    next none =>
      refine ⟨by simp [leaveCompletionEvents], ?_⟩
      intro event membership ready
      exact absurd ready (List.find?_eq_none.mp none event membership)
    next event _ =>
      simp only
      split
      next =>
        have held : Task.dispatchCompletionEvents ∈
            [.releaseCompletionEventSlot event.ticket, .dispatchCompletionEvents] ++ state.stack := by
          simp
        exact ⟨fun _ => held, fun _ _ _ => State.listens_of_mem held rfl⟩
      next ceq _ =>
        refine ⟨fun _ => ?_, fun _ _ _ => State.listens_of_busy rfl⟩
        simp [writeCeqe]

/-- A CEQ is erased only if no event of it is queued. -/
theorem Handled.delivering {command : Command} (delivering : state.Delivering)
    (handled : Handled config state command after) : after.Delivering := by
  have onward : Onward state after := handled.still.pushes.onward
  cases handled with
  | issued issued => exact delivering.of_desk onward issued.desk
  | creating isCreate =>
      exact delivering.of_desk onward
        (State.desk_call _ rfl (by simp [Callback.createdCeq, isCreate]))
  | creatingCeq => exact delivering.of_eligible onward rfl rfl fun _ _ ready => .inl ready
  | deferredCeq | deferredJfc => exact delivering.of_desk onward rfl
  | erasedJfc => exact delivering.of_desk onward (State.desk_writeBack _ command 0)
  | erasedCeq idle =>
      refine delivering.of_eligible onward rfl rfl ?_
      intro event membership ready
      have other : event.ceqId ≠ command.tag := (State.desk_free idle).1 event membership
      have same : State.eligible (finishUbaseDescriptor
          { state with ceqs := state.ceqs.erase command.tag } command 0) event =
          state.eligible event := by
        simp [State.eligible, finishUbaseDescriptor, AList.lookup_erase_ne other]
      exact .inl (same ▸ ready)

theorem maybeCompleteJfcDestroy_delivering (delivering : state.Delivering) (config : Config) :
    (maybeCompleteJfcDestroy config state).Delivering := by
  unfold maybeCompleteJfcDestroy
  split
  next => exact delivering
  next command _ =>
    split
    next => exact delivering
    next =>
      refine Handled.delivering ?_ (handleUbaseMailbox_handled config
        { state with pendingJfcDestroy := none, drainingJfcId := none } command)
      exact { delivering with }

theorem maybeCompleteEqDestroy_delivering (delivering : state.Delivering) (config : Config) :
    (maybeCompleteEqDestroy config state).Delivering := by
  unfold maybeCompleteEqDestroy
  split
  next => exact delivering
  next command _ =>
    split
    next => exact delivering
    next =>
      refine Handled.delivering ?_ (handleUbaseMailbox_handled config
        { state with pendingEqDestroy := none, drainingCeqId := none } command)
      exact { delivering with }

theorem ceqDoorbell_delivering (delivering : state.Delivering) (value : Nat) :
    (ceqDoorbell state value).Delivering := by
  have onward := (ceqDoorbell_still state value).pushes.onward
  unfold ceqDoorbell at onward ⊢
  simp only at onward ⊢
  split
  next => exact delivering
  next ceq found =>
    simp only [found] at onward
    split
    next => exact delivering
    next accepted =>
      rw [if_neg accepted] at onward
      exact delivering.of_listens onward (State.listens_of_mem List.mem_cons_self rfl)

/-- No CEQ is installed while events for it are queued that the event loop will not look
at. -/
def NoCeqFreed (before : State) (event : Event) : Prop :=
  before.listens = false → ∀ tag ∈ before.installsCeq event,
    ∀ queued ∈ before.completionEvents, queued.ceqId ≠ tag

instance (before : State) (event : Event) : Decidable (NoCeqFreed before event) :=
  inferInstanceAs (Decidable (_ → _))

/-- The context of a CEQ has arrived. -/
theorem contextRead_ceqs (state : State) {command : Command} (isCreate : command.opcode = .createCeq)
    (ok : Bool) (bytes : Bytes) :
    (contextRead state command ok bytes).completionEvents = state.completionEvents ∧
      (contextRead state command ok bytes).completionEventBusy = state.completionEventBusy ∧
      ((contextRead state command ok bytes).ceqs = state.ceqs ∨
        ∃ ceq, ok = true ∧ bytes.length = 64 ∧ decodeCeq command.tag bytes = some ceq ∧
          (contextRead state command ok bytes).ceqs = state.ceqs.insert command.tag ceq) := by
  unfold contextRead
  split
  next arrived =>
    simp only [isCreate, Opcode.contextBytes, Bool.and_eq_true, beq_iff_eq] at arrived
    simp only [applyUbaseMailbox, isCreate]
    split
    next => exact ⟨rfl, rfl, .inl rfl⟩
    next ceq decoded => exact ⟨rfl, rfl, .inr ⟨ceq, arrived.1, arrived.2, decoded, rfl⟩⟩
  next => exact ⟨rfl, rfl, .inl rfl⟩

theorem contextRead_delivering {index : Nat} {command : Command} {ok : Bool} {bytes : Bytes}
    (delivering : before.Delivering)
    (found : before.outstanding[index]? = some (.contextRead command))
    (isCreate : command.opcode = .createCeq)
    (freed : NoCeqFreed before (.fire index ok bytes)) :
    (contextRead (before.withOutstanding (before.outstanding.eraseIdx index)) command ok
      bytes).Delivering := by
  have onward : Onward before (contextRead (before.withOutstanding
      (before.outstanding.eraseIdx index)) command ok bytes) :=
    { (contextRead_still (before.withOutstanding (before.outstanding.eraseIdx index)) command ok
        bytes).pushes.onward with }
  obtain ⟨events, busy, ceqs⟩ := contextRead_ceqs
    (before.withOutstanding (before.outstanding.eraseIdx index)) isCreate ok bytes
  refine delivering.of_eligible onward busy events ?_
  intro event membership ready
  rcases ceqs with same | ⟨ceq, rfl, size, decoded, changed⟩
  · rw [State.eligible, same] at ready
    exact .inl ready
  · by_cases listens : before.listens = true
    · exact .inr listens
    · have installs : before.installsCeq (.fire index true bytes) = some command.tag := by
        simp [State.installsCeq, found, isCreate, size, decoded]
      have other := freed (Bool.eq_false_iff.mpr listens) command.tag installs event membership
      rw [State.eligible, changed, AList.lookup_insert_ne other] at ready
      exact .inl ready

theorem fire_delivering {index : Nat} {callback : Callback} {ok : Bool} {bytes : Bytes}
    (delivering : before.Delivering) (watched : before.desk.Watched)
    (found : before.outstanding[index]? = some callback)
    (freed : NoCeqFreed before (.fire index ok bytes)) :
    (runCallback config (before.withOutstanding (before.outstanding.eraseIdx index)) ok bytes
      callback).Delivering := by
  have onward : Onward before (runCallback config
      (before.withOutstanding (before.outstanding.eraseIdx index)) ok bytes callback) :=
    { (runCallback_beside config (before.withOutstanding (before.outstanding.eraseIdx index)) ok
        bytes callback).onward with }
  cases callback with
  | consumerRead ticket id publication =>
      exact delivering.of_desk onward ((publish_desk config _ ticket id publication _).trans
        (State.desk_withdraw found rfl rfl))
  | cqeWritten ticket id publication =>
      exact delivering.of_desk onward ((cqeWritten_desk config _ ticket id publication ok).trans
        (State.desk_withdraw found rfl rfl))
  | ceqeWritten ticket ceqId vector =>
      have held : Callback.ceqeWritten ticket ceqId vector ∈ before.desk.calls :=
        List.mem_filter.mpr ⟨List.mem_of_getElem? found, rfl⟩
      have busy : before.completionEventBusy = true := watched.busy_of_write held
      refine delivering.of_listens onward ?_
      change (ceqeWritten _ ticket ceqId ok).listens = true
      unfold ceqeWritten
      simp only
      split
      next => exact State.listens_of_busy busy
      next =>
        split
        next => exact State.listens_of_busy busy
        next => exact State.listens_of_mem (show Task.processCompletionEvent ∈ _ by simp [eventEnded]) rfl
  | interruptRaised ticket =>
      refine delivering.of_listens onward ?_
      exact State.listens_of_mem (show Task.processCompletionEvent ∈ _ by
        simp [runCallback, interruptRaised, eventEnded]) rfl
  | contextRead command =>
      by_cases isCreate : command.opcode = .createCeq
      · exact contextRead_delivering delivering found isCreate freed
      · exact delivering.of_desk onward ((contextRead_other _ ok bytes isCreate).trans
          (State.desk_withdraw found rfl (by simp [Callback.createdCeq, isCreate])))
  | queryRead command =>
      exact delivering.of_desk onward ((queryRead_desk _ command ok bytes).trans
        (State.desk_withdraw found rfl rfl))
  | queryWritten command =>
      exact delivering.of_desk onward ((queryWritten_desk _ command ok).trans
        (State.desk_withdraw found rfl rfl))
  | descriptorWritten =>
      exact delivering.of_desk onward (State.desk_withdraw found rfl rfl)

/-! ## Steps -/

/-- What the frames of the pump leave below them. -/
theorem runFrame_onward {task : Task} (own : task.frame = true)
    (ran : runTask config state task = some after) : Onward state after := by
  have pushed : ∀ tasks, Onward state (state.push tasks) :=
    fun tasks => ⟨List.subset_append_right _ _, rfl⟩
  cases task with
  | pumpPass => simp [runTask] at ran
  | pumpTimers expired =>
      obtain rfl := Option.some.inj ran
      unfold pumpTimers pumpTimer
      split
      next => exact pushed _
      next =>
        split
        next => exact pushed _
        next =>
          split
          next => exact pushed _
          next => exact { pushed [_, _] with }
  | pumpQueues ids =>
      obtain rfl := Option.some.inj ran
      unfold pumpQueues
      split
      next =>
        split
        next => exact pushed _
        next => exact ⟨List.Subset.refl _, rfl⟩
      next => exact pushed _
  | processJfcPublications id =>
      obtain rfl := Option.some.inj ran
      unfold processJfcPublications
      split
      next => exact Onward.refl state
      next =>
        split
        next => exact Onward.refl state
        next => exact { pushed [_] with }
  | admitJfcPublications id =>
      obtain rfl := Option.some.inj ran
      unfold admitJfcPublications
      split
      next => exact Onward.refl state
      next queue _ =>
        split
        next => exact pushed _
        next publication later _ =>
          split
          next =>
            have written := (writeCqeNow_beside config
              (grant config state id queue publication later) state.tickets id publication).onward
            exact ⟨fun task below => written.stack (List.mem_cons_of_mem _ below), written.looping⟩
          next => exact pushed _
  | leaveJfcPublications id =>
      obtain rfl := Option.some.inj ran
      unfold leaveJfcPublications
      split
      next => exact Onward.refl state
      next =>
        split
        next => exact { pushed [_, _] with }
        next => exact ⟨List.Subset.refl _, rfl⟩
  | _ => simp [Task.frame] at own

/-- What the frames of the pump do is not about events. -/
theorem runFrame_desk {task : Task} (own : task.frame = true)
    (ran : runTask config state task = some after) : after.desk = state.desk := by
  cases task with
  | pumpPass => simp [runTask] at ran
  | pumpTimers expired =>
      obtain rfl := Option.some.inj ran
      exact pumpTimers_desk config state expired
  | pumpQueues ids =>
      obtain rfl := Option.some.inj ran
      unfold pumpQueues
      split
      next => split <;> rfl
      next => rfl
  | processJfcPublications id =>
      obtain rfl := Option.some.inj ran
      unfold processJfcPublications
      split
      next => rfl
      next => split <;> rfl
  | admitJfcPublications id =>
      obtain rfl := Option.some.inj ran
      exact admitJfcPublications_desk config state id
  | leaveJfcPublications id =>
      obtain rfl := Option.some.inj ran
      unfold leaveJfcPublications
      split
      next => rfl
      next => split <;> rfl
  | _ => simp [Task.frame] at own

theorem runTask_delivering {task : Task} {rest : List Task} (delivering : before.Delivering)
    (shape : before.stack = task :: rest)
    (ran : runTask config (before.withStack rest) task = some after) : after.Delivering := by
  cases task with
  | external =>
      obtain rfl := Option.some.inj ran
      exact delivering.pop shape rfl
  | pumpCompletionWork =>
      obtain rfl := Option.some.inj ran
      refine (delivering.pop shape rfl).of_desk ?_ ?_
      · unfold pumpCompletionWork
        split
        next => exact ⟨List.Subset.refl _, rfl⟩
        next => exact ⟨List.subset_append_right _ _, rfl⟩
      · unfold pumpCompletionWork
        split <;> rfl
  | releasePublication id =>
      have onward := (runTask_roused rfl (by simp) ran).pushes.onward
      obtain rfl := Option.some.inj ran
      refine (delivering.pop shape rfl).of_desk onward ?_
      unfold releasePublication
      split <;> rfl
  | releaseCompletionEventSlot ticket =>
      have onward := (runTask_roused rfl (by simp) ran).pushes.onward
      obtain rfl := Option.some.inj ran
      exact (delivering.pop shape rfl).of_desk onward
        ((State.desk_push _ _).trans (State.desk_emit _ rfl))
  | complete call ok =>
      obtain rfl := Option.some.inj ran
      exact (delivering.pop shape rfl).of_desk ⟨List.subset_append_right _ _, rfl⟩
        ((State.desk_push _ _).trans (State.desk_emit _ rfl))
  | emitCompletionEvent ticket id =>
      obtain rfl := Option.some.inj ran
      exact emitCompletionEvent_delivering (delivering.pop shape rfl) config ticket id
  | processCompletionEvent =>
      obtain rfl := Option.some.inj ran
      exact processCompletionEvent_delivering delivering shape
  | dispatchCompletionEvents =>
      obtain rfl := Option.some.inj ran
      exact dispatchCompletionEvents_delivering _
  | maybeCompleteJfcDestroy =>
      obtain rfl := Option.some.inj ran
      exact maybeCompleteJfcDestroy_delivering (delivering.pop shape rfl) config
  | maybeCompleteEqDestroy =>
      obtain rfl := Option.some.inj ran
      exact maybeCompleteEqDestroy_delivering (delivering.pop shape rfl) config
  | _ => exact (delivering.pop shape rfl).of_desk (runFrame_onward rfl ran) (runFrame_desk rfl ran)

theorem environment_delivering (delivering : before.Delivering) (watched : before.desk.Watched)
    (acted : environment config before event = some after) (freed : NoCeqFreed before event) :
    after.Delivering := by
  have onward := (environment_beside acted).onward
  cases event with
  | run => simp [environment] at acted
  | beginPass expired => simp [environment] at acted
  | fire index ok bytes =>
      simp only [environment] at acted
      cases found : before.outstanding[index]? with
      | none => simp [found] at acted
      | some callback =>
          simp only [found, Option.some.injEq] at acted
          subst acted
          exact fire_delivering delivering watched found freed
  | writeCqe id cqe =>
      obtain rfl := Option.some.inj acted
      exact delivering.of_desk onward (writeCqe_desk before id cqe)
  | mailbox command =>
      simp only [environment] at acted
      split at acted
      next => simp at acted
      next =>
        obtain rfl := Option.some.inj acted
        refine Handled.delivering ?_
          (handleUbaseMailbox_handled config { before with ubaseBusy := true } command)
        exact { delivering with }
  | ceqDoorbell value =>
      obtain rfl := Option.some.inj acted
      exact ceqDoorbell_delivering delivering value
  | jfcDoorbell value =>
      obtain rfl := Option.some.inj acted
      refine delivering.of_desk onward ?_
      unfold jfcDoorbell
      simp only
      split
      next => exact State.desk_emit _ rfl
      next => rfl
  | advanceTime now =>
      simp only [environment] at acted
      split at acted
      next =>
        obtain rfl := Option.some.inj acted
        exact delivering
      next =>
        obtain rfl := Option.some.inj acted
        exact delivering.of_desk onward rfl

theorem State.Delivering.step (delivering : before.Delivering) (watched : before.desk.Watched)
    (taken : step config before event = some after) (freed : NoCeqFreed before event) :
    after.Delivering := by
  rcases step_kinds taken with ⟨task, rest, _, shape, ran⟩ | ⟨expired, rest, shape, _, rfl⟩ | acted
  · exact runTask_delivering delivering shape ran
  · exact (delivering.pop shape rfl).of_desk ⟨List.subset_append_right _ _, rfl⟩ rfl
  · exact environment_delivering delivering watched acted freed

/-! ## At rest -/

/-- The steps that take no obstacle out of the way without a wakeup. -/
def Woken (config : Config) (before : State) (event : Event) (_after : State) : Prop :=
  NoRoomMade config before event ∧ NoneAdopted config before event ∧ NoCeqFreed before event

instance (config : Config) (before : State) (event : Event) (after : State) :
    Decidable (Woken config before event after) := inferInstanceAs (Decidable (_ ∧ _ ∧ _))

theorem served_of_reaches (reached : Reaches (step config) (Woken config) .initial state) :
    state.Served config true := by
  refine reached.induction_on (State.Served config true) ?_ ?_
  · exact ⟨fun id waiting _ => absurd rfl waiting,
      fun id jfc found => by simp [State.initial] at found⟩
  · intro before event after earlier served taken woken
    exact served.step (framed_of_reaches earlier) taken (fun _ => woken.1) woken.2.1

theorem delivering_of_reaches (reached : Reaches (step config) (Woken config) .initial state) :
    state.Delivering := by
  refine reached.induction_on State.Delivering ?_ ?_
  · exact ⟨by simp [State.initial], by simp [State.initial]⟩
  · intro before event after earlier delivering taken woken
    exact delivering.step (watched_of_reaches earlier) taken woken.2.2

/-- When nothing of the engine is running, the publications of a JFC wait only for a slot,
for the publication that is running (in serial mode) or, in pipelined mode, for room in a
ring that is full with a publication in flight; no timer has expired unless all slots are
in use; and no event waits but for an event in progress or for the credit of its CEQ. -/
theorem completion_work_conserved (reached : Reaches (step config) (Woken config) .initial state)
    (rest : state.stack = []) :
    (∀ id queue jfc, state.jfcPublications.lookup id = some queue → queue.pending ≠ [] →
      state.jfcs.lookup id = some jfc →
      config.completionEventSlots ≤ state.completionEventSlotsInUse ∨
        config.pipelinedCompletionDma = false ∧ queue.running = true ∨
        config.pipelinedCompletionDma = true ∧ jfc.depth ≤ jfc.used ∧ queue.inFlight ≠ 0) ∧
    (∀ id jfc, state.jfcs.lookup id = some jfc → jfc.pendingCompletions ≠ 0 →
      jfc.moderationDeadline ≠ 0 → jfc.moderationDeadline ≤ state.now →
      config.completionEventSlots ≤ state.completionEventSlotsInUse) ∧
    (state.completionEventBusy = true ∨ ∀ event ∈ state.completionEvents,
      ∃ ceq, state.ceqs.lookup event.ceqId = some ceq ∧
        (ceq.creditFault = true ∨ ceq.depth ≤ ceq.lag)) := by
  have served := served_of_reaches reached
  have delivering := delivering_of_reaches reached
  have rests := (framed_of_reaches reached).rests rest
  refine ⟨?_, ?_, ?_⟩
  · intro id queue jfc present waiting found
    have pending : state.pendingFor id ≠ [] := by rwa [State.pendingFor_eq present]
    have known : (state.ring id).isSome = true := by simp [State.ring, found]
    rcases served.publications id pending (fun _ => known) with looks | full | ⟨loaded, behind⟩
    · simp [rests] at looks
    · exact .inl full
    · rw [State.load_eq present] at loaded
      by_cases pipelined : config.pipelinedCompletionDma = true
      · have ring : state.ring id = some jfc.ring := Jfc.lookup_of_ring found
        refine .inr (.inr ⟨pipelined, behind rfl pipelined jfc.ring ring, ?_⟩)
        simpa [PublicationQueue.load, pipelined] using loaded
      · refine .inr (.inl ⟨by simpa using pipelined, ?_⟩)
        simpa [PublicationQueue.load, pipelined] using loaded
  · intro id jfc found pending deadline due
    have moderating : jfc.moderating = true := by simp [Jfc.moderating, pending, deadline]
    rcases served.timers id jfc found moderating due with looks | full
    · simp [rests] at looks
    · exact full
  · by_cases busy : state.completionEventBusy = true
    · exact .inl busy
    · refine .inr fun event membership => ?_
      have deaf : state.listens = false := by simp [State.listens, rest, busy]
      have waits : state.eligible event ≠ true := by
        intro ready
        rw [delivering.events event membership ready] at deaf
        simp at deaf
      unfold State.eligible at waits
      split at waits
      next => simp at waits
      next ceq found =>
        refine ⟨ceq, found, ?_⟩
        by_cases fault : ceq.creditFault = true
        · exact .inl fault
        · exact .inr (by simpa [fault, Ceq.lag] using waits)

/-- Two CQEs are being written, which takes both slots, and a third waits. -/
def thirdWaits : List Event :=
  created ++ [.writeCqe 7 .small] ++ pass 8 ++ [.writeCqe 7 .small] ++ pass 8 ++
    [.writeCqe 7 .small] ++ pass 6

theorem work_conserved_for_three_cqes :
    ∃ state queue jfc, Reaches (step (.small true)) (Woken (.small true)) .initial state ∧
      state.stack = [] ∧ state.jfcPublications.lookup 7 = some queue ∧ queue.pending ≠ [] ∧
      state.jfcs.lookup 7 = some jfc ∧ jfc.used < jfc.depth ∧
      (Config.small true).completionEventSlots ≤ state.completionEventSlotsInUse := by
  obtain ⟨state, reached, seen⟩ := exists_of_execute
    (show (execute (step (.small true)) (Woken (.small true)) thirdWaits .initial).map
        (fun state => state.stack == [] &&
          (state.jfcPublications.lookup 7).any (fun queue => queue.pending != []) &&
          (state.jfcs.lookup 7).any fun jfc => decide (jfc.used < jfc.depth)) =
      some true by decide +kernel)
  simp only [Bool.and_eq_true, beq_iff_eq, Option.any_eq_true, bne_iff_ne, decide_eq_true_eq] at seen
  obtain ⟨⟨rest, queue, present, waiting⟩, jfc, found, room⟩ := seen
  refine ⟨state, queue, jfc, reached, rest, present, waiting, found, room, ?_⟩
  rcases (completion_work_conserved reached rest).1 7 queue jfc present waiting found with
    full | ⟨serial, _⟩ | ⟨_, behind, _⟩
  · exact full
  · simp [Config.small] at serial
  · omega

/-- In pipelined mode a publication for a JFC that does not exist stays in the queue, and
creating the JFC does not wake the pump: with every slot free and nothing in flight, the
publication waits. -/
theorem adopted_publication_waits :
    ∃ state queue jfc, Reaches (step (.small true)) always .initial state ∧ state.stack = [] ∧
      state.outstanding = [] ∧ state.jfcPublications.lookup 7 = some queue ∧ queue.pending ≠ [] ∧
      state.jfcs.lookup 7 = some jfc ∧ state.completionEventSlotsInUse = 0 ∧
      queue.running = false ∧ queue.inFlight = 0 := by
  obtain ⟨state, reached, seen⟩ := exists_of_execute
    (show (execute (step (.small true)) always
        ([.writeCqe 7 .small] ++ pass 6 ++ create .createJfc 7 jfcImage) .initial).map
        (fun state => state.stack == [] && state.outstanding == [] &&
          (state.jfcPublications.lookup 7).any (fun queue => queue.pending != [] &&
            queue.running == false && queue.inFlight == 0) &&
          (state.jfcs.lookup 7).isSome && state.completionEventSlotsInUse == 0) =
      some true by decide +kernel)
  simp only [Bool.and_eq_true, beq_iff_eq, Option.any_eq_true, bne_iff_ne,
    Option.isSome_iff_exists] at seen
  obtain ⟨⟨⟨⟨rest, none⟩, queue, present, ⟨waiting, idle⟩, unloaded⟩, jfc, found⟩, free⟩ := seen
  exact ⟨state, queue, jfc, reached, rest, none, present, waiting, found, free, idle, unloaded⟩

end Udma.Cq
