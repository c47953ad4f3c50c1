import Udma.Collections.MarkFirst
import Udma.Collections.Withdraw
import Udma.Cq.Moves
import Udma.Transition.Run

/-!
# The event engine

What a step does to the CEQs, to the queue of completion events and to the event
in progress.  At most one event is being delivered, and as long as its entry is
being written the CEQ it goes to cannot be destroyed.
-/

namespace Udma.Cq

open Udma.Abi Udma.Arithmetic Udma.Collections Udma.Transition

variable {config : Config} {state changed after before : State}

/-- The CEQ whose entry was written is still there. -/
def Callback.attended (state : State) : Callback → Prop
  | .ceqeWritten _ ceqId _ => (state.ceqs.lookup ceqId).isSome
  | _ => True

/-- Callbacks of the event in progress. -/
def Callback.event : Callback → Bool
  | .ceqeWritten _ _ _ | .interruptRaised _ => true
  | _ => false

/-- The CEQ whose context is being read for a create command. -/
def Callback.createdCeq : Callback → Option Nat
  | .contextRead command => if command.opcode = .createCeq then some command.tag else none
  | _ => none

/-- The write of an event queue entry: the CEQ, the producer and the address. -/
structure CeqeWrite where
  ceqId : Nat
  producer : Nat
  address : Nat
  deriving DecidableEq, Repr

def Observation.ceqeWrite : Observation → Option CeqeWrite
  | .ceqeDma ceqId producer address _ => some ⟨ceqId, producer, address⟩
  | _ => none

/-- The entries written, in order. -/
def ceqeWritesOf (trace : List Observation) : List CeqeWrite :=
  trace.filterMap Observation.ceqeWrite

/-- The part of the state that only the event engine and the CEQ commands use. -/
@[ext]
structure Desk where
  ceqs : Map Ceq
  events : List CompletionEvent
  busy : Bool
  writing : Bool
  active : Nat
  calls : List Callback
  creating : List Nat
  writes : List CeqeWrite

@[simps]
def State.desk (state : State) : Desk where
  ceqs := state.ceqs
  events := state.completionEvents
  busy := state.completionEventBusy
  writing := state.ceqWritePending
  active := state.activeCeqId
  calls := state.outstanding.filter Callback.event
  creating := state.outstanding.filterMap Callback.createdCeq
  writes := ceqeWritesOf state.trace

/-! ## What leaves the event engine alone -/

@[simp]
theorem State.desk_push (state : State) (tasks : List Task) : (state.push tasks).desk = state.desk :=
  rfl

theorem State.desk_emit (state : State) {observations : List Observation}
    (quiet : ceqeWritesOf observations = []) : (state.emit observations).desk = state.desk := by
  have same : ceqeWritesOf (state.trace ++ observations) = ceqeWritesOf state.trace := by
    rw [ceqeWritesOf, List.filterMap_append, ← ceqeWritesOf, ← ceqeWritesOf, quiet, List.append_nil]
  unfold State.desk
  rw [State.emit_trace, same]
  rfl

theorem State.desk_call (state : State) {callback : Callback} (other : callback.event = false)
    (plain : callback.createdCeq = none) : (state.call callback).desk = state.desk := by
  unfold State.desk
  simp [other, plain]

/-- The next callback of the event in progress. -/
theorem State.desk_callEvent (state : State) {callback : Callback} (own : callback.event = true)
    (plain : callback.createdCeq = none) :
    (state.call callback).desk = { state.desk with calls := state.desk.calls ++ [callback] } := by
  unfold State.desk
  simp [own, plain]

theorem State.desk_writeBack (state : State) (command : Command) (status : Nat) :
    (finishUbaseDescriptor state command status).desk = state.desk :=
  (State.desk_call _ rfl rfl).trans (State.desk_emit _ rfl)

theorem publish_desk (config : Config) (state : State) (ticket id : Nat)
    (publication : Publication) (consumer : Option Nat) :
    (publish config state ticket id publication consumer).desk = state.desk := by
  unfold publish
  split
  next =>
    split
    next => exact state.desk_push _
    next =>
      refine ((State.desk_call _ rfl rfl).trans (State.desk_emit _ rfl)).trans ?_
      unfold reserveCqe
      split <;> rfl
  next => exact state.desk_push _

theorem writeCqeNow_desk (config : Config) (state : State) (ticket id : Nat)
    (publication : Publication) :
    (writeCqeNow config state ticket id publication).desk = state.desk := by
  unfold writeCqeNow
  split
  next => exact state.desk_push _
  next =>
    split
    next => exact publish_desk config state ticket id publication _
    next => exact State.desk_call _ rfl rfl

theorem moderate_desk (state : State) (ticket id call : Nat) (jfc : Jfc) :
    (moderate state ticket id call jfc).desk = state.desk := by
  unfold moderate
  split
  next => rfl
  next => exact (State.desk_push _ _).trans (State.desk_emit _ rfl)

theorem cqeWritten_desk (config : Config) (state : State) (ticket id : Nat)
    (publication : Publication) (ok : Bool) :
    (cqeWritten config state ticket id publication ok).desk = state.desk := by
  unfold cqeWritten
  split
  next => exact state.desk_push _
  next jfc _ =>
    split
    next =>
      split
      next => exact state.desk_push _
      next => exact state.desk_push _
      next left _ =>
        split
        next => exact moderate_desk _ _ _ _ _
        next => rfl
    next =>
      split
      next => exact moderate_desk _ _ _ _ _
      next => rfl

theorem queryRead_desk (state : State) (command : Command) (ok : Bool) (bytes : Bytes) :
    (queryRead state command ok bytes).desk = state.desk := by
  rcases queryRead_cases state command ok bytes with same | ⟨jfc, _, _, _, same⟩
  · rw [same]
    exact state.desk_writeBack command 5
  · rw [same]
    exact State.desk_call _ rfl rfl

theorem Issued.desk (issued : Issued state after) : after.desk = state.desk := by
  cases issued with
  | read callback own plain =>
      cases callback with
      | contextRead command =>
          have other : command.opcode ≠ .createCeq := by
            rintro same
            simp [Callback.creates, same] at plain
          exact State.desk_call _ rfl (by simp [Callback.createdCeq, other])
      | queryRead _ | queryWritten _ | descriptorWritten => exact State.desk_call _ rfl rfl
      | _ => simp [Callback.mailbox] at own
  | writeBack command status => exact state.desk_writeBack command status

theorem admitJfcPublications_desk (config : Config) (state : State) (id : Nat) :
    (admitJfcPublications config state id).desk = state.desk := by
  unfold admitJfcPublications
  split
  next => rfl
  next queue _ =>
    split
    next => rfl
    next publication rest _ =>
      split
      next =>
        refine (writeCqeNow_desk config _ _ _ _).trans ?_
        unfold grant
        exact (State.desk_push _ _).trans (State.desk_emit _ rfl)
      next => rfl

theorem pumpTimers_desk (config : Config) (state : State) (expired : List Nat) :
    (pumpTimers config state expired).desk = state.desk := by
  unfold pumpTimers pumpTimer
  split
  next => rfl
  next =>
    split
    next => rfl
    next =>
      split
      next => rfl
      next => exact (State.desk_push _ _).trans (State.desk_emit _ rfl)

theorem writeCqe_desk (state : State) (id : Nat) (cqe : Cqe) :
    (writeCqe state id cqe).desk = state.desk := by
  unfold writeCqe
  simp only
  split
  next => exact (State.desk_push _ _).trans (State.desk_emit _ rfl)
  next =>
    refine ((State.desk_push _ _).trans (State.desk_emit _ rfl)).trans ?_
    change (State.emit { state with calls := state.calls + 1 } _).desk = state.desk
    exact State.desk_emit _ (by rfl)

/-! ## Moves -/

/-- What a step announces: the CEQ it installs, the callback that the host calls, with its
result, and the CEQ it queues an event for. -/
structure Notice where
  installs : Option Nat := none
  answer : Option (Callback × Bool) := none
  enqueues : Option Nat := none

/-- Published entries that the consumer has not passed. -/
def Ceq.lag (ceq : Ceq) : Nat := sub32 ceq.producer ceq.consumer

/-- The CEQ after a doorbell that moves the consumer by `delta`; what was not yet
published is parked. -/
def Ceq.credited (ceq : Ceq) (delta : Nat) : Ceq :=
  if ceq.lag < delta then
    { ceq with
      pendingConsumer := (ceq.consumer + delta) % 2 ^ 32
      consumerPending := true }
  else { ceq with consumer := (ceq.consumer + delta) % 2 ^ 32 }

/-- The entry of CEQ `id` is being written. -/
def Desk.reserved (desk : Desk) (id : Nat) : Bool :=
  desk.busy && desk.writing && desk.active == id

/-- No event of CEQ `id` is queued or in progress. -/
def Desk.Free (desk : Desk) (id : Nat) : Prop :=
  (∀ event ∈ desk.events, event.ceqId ≠ id) ∧ ¬ (desk.busy = true ∧ desk.active = id)

/-- What a step does to the event engine. -/
inductive Desk.Move (notice : Notice) (desk : Desk) : Desk → Prop where
  | kept : Move notice desk desk
  | enqueued (event : CompletionEvent) : notice.enqueues = some event.ceqId →
      Move notice desk { desk with events := desk.events ++ [event] }
  | dropped (event : CompletionEvent) (earlier later : List CompletionEvent) :
      desk.events = earlier ++ event :: later → desk.ceqs.lookup event.ceqId = none →
      Move notice desk { desk with events := earlier ++ later }
  | started (event : CompletionEvent) (ceq : Ceq) (earlier later : List CompletionEvent) :
      desk.busy = false → desk.events = earlier ++ event :: later →
      desk.ceqs.lookup event.ceqId = some ceq → ceq.creditFault = false → ceq.lag < ceq.depth →
      Move notice desk
        { desk with
          events := earlier ++ later
          busy := true
          writing := true
          active := event.ceqId
          calls := desk.calls ++ [.ceqeWritten event.ticket event.ceqId ceq.vector]
          writes := desk.writes ++ [⟨event.ceqId, ceq.producer,
            ceq.iova + (ceq.producer &&& (ceq.depth - 1)) * 64⟩] }
  | acknowledged (ticket ceqId vector : Nat) (earlier later : List Callback) (ceq : Ceq) :
      notice.answer = some (.ceqeWritten ticket ceqId vector, true) →
      desk.calls = earlier ++ .ceqeWritten ticket ceqId vector :: later →
      desk.ceqs.lookup ceqId = some ceq →
      Move notice desk
        { desk with
          ceqs := desk.ceqs.insert ceqId ceq.advance
          writing := false
          calls := earlier ++ later ++ [.interruptRaised ticket] }
  | refused (ticket ceqId vector : Nat) (earlier later : List Callback) (ceq : Ceq) :
      notice.answer = some (.ceqeWritten ticket ceqId vector, false) →
      desk.calls = earlier ++ .ceqeWritten ticket ceqId vector :: later →
      desk.ceqs.lookup ceqId = some ceq →
      Move notice desk
        { desk with
          ceqs := desk.ceqs.insert ceqId ceq.refuse
          writing := false
          busy := false
          calls := earlier ++ later }
  | missing (ticket ceqId vector : Nat) (earlier later : List Callback) :
      desk.calls = earlier ++ .ceqeWritten ticket ceqId vector :: later →
      desk.ceqs.lookup ceqId = none →
      Move notice desk { desk with writing := false, calls := earlier ++ later }
  | raised (ticket : Nat) (earlier later : List Callback) :
      desk.calls = earlier ++ .interruptRaised ticket :: later →
      Move notice desk { desk with busy := false, calls := earlier ++ later }
  | rung (id delta : Nat) (ceq : Ceq) : desk.ceqs.lookup id = some ceq → ceq.creditFault = false →
      delta ≤ (ceq.lag + (desk.reserved id).toNat) % 2 ^ 32 →
      Move notice desk { desk with ceqs := desk.ceqs.insert id (ceq.credited delta) }
  | asked (tag : Nat) : desk.Free tag →
      Move notice desk { desk with creating := desk.creating ++ [tag] }
  | installed (tag : Nat) (context : Bytes) (ceq : Ceq) (earlier later : List Nat) :
      notice.installs = some tag → desk.creating = earlier ++ tag :: later →
      decodeCeq tag context = some ceq →
      Move notice desk
        { desk with ceqs := desk.ceqs.insert tag ceq, creating := earlier ++ later }
  | declined (tag : Nat) (earlier later : List Nat) : desk.creating = earlier ++ tag :: later →
      Move notice desk { desk with creating := earlier ++ later }
  | erased (tag : Nat) : desk.Free tag →
      Move notice desk { desk with ceqs := desk.ceqs.erase tag }

theorem Desk.Move.congr {notice : Notice} {desk next last : Desk}
    (move : Desk.Move notice desk next) (same : last = next) : Desk.Move notice desk last :=
  same ▸ move

theorem Desk.Move.of_eq {notice : Notice} {desk next : Desk} (same : next = desk) :
    Desk.Move notice desk next := same ▸ .kept

/-- The CEQ whose context arrives with this event. -/
def State.installsCeq (state : State) : Event → Option Nat
  | .fire index true bytes =>
      match state.outstanding[index]? with
      | some (.contextRead command) =>
          if command.opcode = .createCeq ∧ bytes.length = 64 ∧
              (decodeCeq command.tag bytes).isSome then some command.tag
          else none
      | _ => none
  | _ => none

/-- The callback that the host calls, and whether it reports success. -/
def State.answer (state : State) : Event → Option (Callback × Bool)
  | .fire index ok _ => (state.outstanding[index]?).map fun callback => (callback, ok)
  | _ => none

/-- The CEQ for which the task queues an event. -/
def Task.enqueues (config : Config) (state : State) : Task → Option Nat
  | .emitCompletionEvent _ id =>
      if config.oneShotJfcNotifications ∧ (state.armedJfcs.lookup id).getD false = false then none
      else state.jfcCeqs.lookup id
  | _ => none

/-- The CEQ for which the engine is about to queue an event. -/
def State.enqueues (config : Config) (state : State) : Event → Option Nat
  | .run => state.stack.head?.bind (Task.enqueues config state)
  | _ => none

def State.notice (config : Config) (state : State) (event : Event) : Notice :=
  ⟨state.installsCeq event, state.answer event, state.enqueues config event⟩

/-! ## The functions of the event engine -/

theorem emitCompletionEvent_desk (config : Config) (state : State) (ticket id : Nat)
    (installs : Option Nat) (answer : Option (Callback × Bool)) :
    Desk.Move ⟨installs, answer, Task.enqueues config state (.emitCompletionEvent ticket id)⟩
      state.desk
      (emitCompletionEvent config state ticket id).desk := by
  unfold emitCompletionEvent
  split
  next => exact .kept
  next armed =>
    simp only
    split
    next => exact .of_eq (by split <;> rfl)
    next ceqId found =>
      have own : Task.enqueues config state (.emitCompletionEvent ticket id) = some ceqId := by
        simp only [Task.enqueues]
        rw [if_neg armed, found]
      refine Desk.Move.congr (.enqueued ⟨ticket, id, ceqId⟩ own) ?_
      refine ((State.desk_push _ _).trans (State.desk_emit _ (by rfl))).trans ?_
      split <;> rfl

theorem writeCeqe_desk (state : State) (event : CompletionEvent) (ceq : Ceq) :
    (writeCeqe state event ceq).desk =
      { state.desk with
        busy := true
        writing := true
        active := event.ceqId
        calls := state.desk.calls ++ [.ceqeWritten event.ticket event.ceqId ceq.vector]
        writes := state.desk.writes ++ [⟨event.ceqId, ceq.producer,
          ceq.iova + (ceq.producer &&& (ceq.depth - 1)) * 64⟩] } := by
  unfold writeCeqe State.desk
  simp [Callback.event, Callback.createdCeq, ceqeWritesOf, Observation.ceqeWrite]

/-- The first event whose CEQ is gone or has a free entry. -/
theorem dispatchCompletionEvents_desk (notice : Notice) (state : State) :
    Desk.Move notice state.desk (dispatchCompletionEvents state).desk := by
  unfold dispatchCompletionEvents
  split
  next => exact .kept
  next idle =>
    split
    next => exact .kept
    next event found =>
      obtain ⟨earlier, later, shape, skipped, hit⟩ := split_of_find found
      have left : state.completionEvents.eraseP state.eligible = earlier ++ later := by
        rw [shape]
        exact eraseP_append skipped hit
      simp only [left]
      split
      next absent => exact .dropped event earlier later shape absent
      next ceq present =>
        have ready : ceq.creditFault = false ∧ ceq.lag < ceq.depth := by
          simpa [State.eligible, present, Ceq.lag] using hit
        refine Desk.Move.congr (.started event ceq earlier later (by simpa using idle) shape present
          ready.1 ready.2) ?_
        rw [writeCeqe_desk]
        rfl

/-- A callback that the event engine does not use. -/
theorem State.desk_withdraw {index : Nat} {callback : Callback}
    (found : state.outstanding[index]? = some callback) (other : callback.event = false)
    (plain : callback.createdCeq = none) :
    (state.withOutstanding (state.outstanding.eraseIdx index)).desk = state.desk := by
  unfold State.desk
  simp only [State.withOutstanding_outstanding, filter_eraseIdx found other,
    filterMap_eraseIdx_none found plain]
  rfl

theorem ceqeWritten_desk {notice : Notice} {index ticket ceqId vector : Nat}
    (found : state.outstanding[index]? = some (.ceqeWritten ticket ceqId vector)) {ok : Bool}
    (answer : notice.answer = some (.ceqeWritten ticket ceqId vector, ok)) :
    Desk.Move notice state.desk
      (ceqeWritten (state.withOutstanding (state.outstanding.eraseIdx index)) ticket ceqId ok).desk := by
  obtain ⟨earlier, later, shape, left⟩ := split_eraseIdx found
  have calls : state.outstanding.filter Callback.event = earlier.filter Callback.event ++
      .ceqeWritten ticket ceqId vector :: later.filter Callback.event := by
    rw [shape, List.filter_append, List.filter_cons_of_pos rfl]
  have others : (earlier ++ later).filter Callback.event =
      earlier.filter Callback.event ++ later.filter Callback.event := List.filter_append _ _
  have creating : (earlier ++ later).filterMap Callback.createdCeq =
      state.outstanding.filterMap Callback.createdCeq := by
    rw [← left]
    exact filterMap_eraseIdx_none found rfl
  unfold ceqeWritten
  simp only
  split
  next absent =>
    refine Desk.Move.congr (.missing ticket ceqId vector _ _ calls absent) ?_
    refine (State.desk_emit _ (by rfl)).trans ?_
    unfold State.desk
    simp only [State.withOutstanding, left, others, creating]
  next ceq present =>
    split
    next landed =>
      rw [landed] at answer
      refine Desk.Move.congr (.acknowledged ticket ceqId vector _ _ ceq answer calls present) ?_
      rw [State.desk_callEvent _ rfl rfl]
      unfold State.desk
      simp only [State.withOutstanding, left, others, creating]
    next lost =>
      rw [Bool.eq_false_iff.mpr lost] at answer
      refine Desk.Move.congr (.refused ticket ceqId vector _ _ ceq answer calls present) ?_
      unfold State.desk
      simp only [State.push_outstanding, State.withOutstanding, left, others, creating]
      rfl

theorem interruptRaised_desk (notice : Notice) {index ticket : Nat}
    (found : state.outstanding[index]? = some (.interruptRaised ticket)) :
    Desk.Move notice state.desk
      (interruptRaised (state.withOutstanding (state.outstanding.eraseIdx index)) ticket).desk := by
  obtain ⟨earlier, later, shape, left⟩ := split_eraseIdx found
  have calls : state.outstanding.filter Callback.event = earlier.filter Callback.event ++
      .interruptRaised ticket :: later.filter Callback.event := by
    rw [shape, List.filter_append, List.filter_cons_of_pos rfl]
  have creating : (earlier ++ later).filterMap Callback.createdCeq =
      state.outstanding.filterMap Callback.createdCeq := by
    rw [← left]
    exact filterMap_eraseIdx_none found rfl
  refine Desk.Move.congr (.raised ticket _ _ calls) ?_
  unfold State.desk interruptRaised
  simp only [State.push_outstanding, State.withOutstanding, left, creating, List.filter_append]
  rfl

theorem ceqDoorbell_desk (notice : Notice) (state : State) (value : Nat) :
    Desk.Move notice state.desk (ceqDoorbell state value).desk := by
  unfold ceqDoorbell
  simp only
  split
  next => exact .kept
  next ceq present =>
    split
    next => exact .kept
    next accepted =>
      push Not at accepted
      obtain ⟨_, faultless, credit⟩ := accepted
      exact .rung (value &&& 0xff) _ ceq present (by simpa using faultless) credit

/-! ## Commands -/

theorem applyUbaseMailbox_desk (state : State) {command : Command} (context : Bytes)
    (other : command.opcode ≠ .createCeq) :
    (applyUbaseMailbox state command context).desk = state.desk := by
  unfold applyUbaseMailbox
  split
  next isCreate => exact absurd isCreate other
  next =>
    split
    next => exact state.desk_writeBack command 22
    next => exact State.desk_writeBack _ command 0
  next =>
    split
    next => exact state.desk_writeBack command 2
    next => exact State.desk_writeBack _ command 0
  all_goals exact state.desk_writeBack command 0

theorem contextRead_other (state : State) {command : Command} (ok : Bool) (bytes : Bytes)
    (other : command.opcode ≠ .createCeq) :
    (contextRead state command ok bytes).desk = state.desk := by
  unfold contextRead
  split
  next => exact applyUbaseMailbox_desk state bytes other
  next => exact state.desk_writeBack command 5

theorem decodeJfc_nil (generation : Nat) : decodeJfc [] generation = none := by
  unfold decodeJfc
  simp [word, load32, byteAt]

theorem decodeCeq_nil (tag : Nat) : decodeCeq tag [] = none := by
  simp [decodeCeq, word, load32, byteAt]

theorem queryWritten_desk (state : State) (command : Command) (ok : Bool) :
    (queryWritten state command ok).desk = state.desk := by
  unfold queryWritten
  split
  next =>
    by_cases isCreate : command.opcode = .createCeq
    · simp only [applyUbaseMailbox, isCreate, decodeCeq_nil]
      exact state.desk_writeBack command 22
    · exact applyUbaseMailbox_desk state [] isCreate
  next => exact state.desk_writeBack command 5

/-- The context of a CEQ has arrived. -/
theorem contextRead_desk (state : State) {index : Nat} {command : Command}
    (found : state.outstanding[index]? = some (.contextRead command))
    (isCreate : command.opcode = .createCeq) (ok : Bool) (bytes : Bytes)
    (answer : Option (Callback × Bool)) (enqueues : Option Nat) :
    Desk.Move ⟨state.installsCeq (.fire index ok bytes), answer, enqueues⟩ state.desk
      (contextRead (state.withOutstanding (state.outstanding.eraseIdx index)) command ok
        bytes).desk := by
  have own : Callback.createdCeq (.contextRead command) = some command.tag := by
    simp [Callback.createdCeq, isCreate]
  obtain ⟨earlier, later, creating, left⟩ := filterMap_eraseIdx_some found own
  have withdrawn : (state.withOutstanding (state.outstanding.eraseIdx index)).desk =
      { state.desk with creating := earlier ++ later } := by
    have calls : (state.outstanding.eraseIdx index).filter Callback.event =
        state.outstanding.filter Callback.event := filter_eraseIdx found rfl
    unfold State.desk
    simp only [State.withOutstanding_outstanding, left, calls]
    rfl
  have declined : ∀ status, Desk.Move ⟨state.installsCeq (.fire index ok bytes), answer, enqueues⟩
      state.desk (finishUbaseDescriptor (state.withOutstanding (state.outstanding.eraseIdx index)) command
        status).desk := by
    intro status
    rw [State.desk_writeBack, withdrawn]
    exact .declined command.tag earlier later creating
  unfold contextRead
  split
  next arrived =>
    simp only [applyUbaseMailbox, isCreate]
    split
    next => exact declined 22
    next ceq decoded =>
      simp only [isCreate, Opcode.contextBytes, Bool.and_eq_true, beq_iff_eq] at arrived
      obtain ⟨rfl, size⟩ := arrived
      have installs : state.installsCeq (.fire index true bytes) = some command.tag := by
        simp [State.installsCeq, found, isCreate, size, decoded]
      refine Desk.Move.congr (.installed command.tag bytes ceq earlier later installs creating
        decoded) ?_
      rw [State.desk_writeBack]
      exact congrArg (fun desk : Desk => { desk with ceqs := state.ceqs.insert command.tag ceq })
        withdrawn
  next => exact declined 5

theorem State.desk_free {tag : Nat} (idle : state.ceqBusy tag = false) : state.desk.Free tag := by
  simp only [State.ceqBusy, Bool.or_eq_false_iff, List.any_eq_false, Bool.and_eq_false_iff,
    beq_eq_false_iff_ne, beq_iff_eq] at idle
  constructor
  · intro event membership
    exact idle.2 event membership
  · rintro ⟨busy, active⟩
    rcases idle.1.2 with free | other
    · exact absurd busy (by simp [free])
    · exact other active

theorem Handled.desk {command : Command} (notice : Notice)
    (handled : Handled config state command after) : Desk.Move notice state.desk after.desk := by
  cases handled with
  | issued issued => exact .of_eq issued.desk
  | creating isCreate absent =>
      exact .of_eq (State.desk_call _ rfl (by simp [Callback.createdCeq, isCreate]))
  | creatingCeq isCreate idle =>
      refine Desk.Move.congr (.asked command.tag (State.desk_free idle)) ?_
      unfold State.desk
      simp [Callback.event, Callback.createdCeq, isCreate]
  | deferredCeq busy => exact .kept
  | deferredJfc busy => exact .kept
  | erasedJfc idle => exact .of_eq (State.desk_writeBack _ command 0)
  | erasedCeq idle =>
      refine Desk.Move.congr (.erased command.tag (State.desk_free idle)) ?_
      rw [State.desk_writeBack]
      rfl

theorem maybeCompleteJfcDestroy_desk (notice : Notice) (config : Config) (state : State) :
    Desk.Move notice state.desk (maybeCompleteJfcDestroy config state).desk := by
  unfold maybeCompleteJfcDestroy
  split
  next => exact .kept
  next command _ =>
    split
    next => exact .kept
    next => exact (handleUbaseMailbox_handled config
        { state with pendingJfcDestroy := none, drainingJfcId := none } command).desk notice

theorem maybeCompleteEqDestroy_desk (notice : Notice) (config : Config) (state : State) :
    Desk.Move notice state.desk (maybeCompleteEqDestroy config state).desk := by
  unfold maybeCompleteEqDestroy
  split
  next => exact .kept
  next command _ =>
    split
    next => exact .kept
    next => exact (handleUbaseMailbox_handled config
        { state with pendingEqDestroy := none, drainingCeqId := none } command).desk notice

/-! ## Steps -/

theorem runTask_desk {task : Task} (installs : Option Nat) (answer : Option (Callback × Bool))
    (ran : runTask config state task = some after) :
    Desk.Move ⟨installs, answer, task.enqueues config state⟩ state.desk after.desk := by
  cases task with
  | external =>
      obtain rfl := Option.some.inj ran
      exact .kept
  | pumpCompletionWork =>
      obtain rfl := Option.some.inj ran
      exact .of_eq (by unfold pumpCompletionWork; split <;> rfl)
  | pumpPass => simp [runTask] at ran
  | pumpTimers expired =>
      obtain rfl := Option.some.inj ran
      exact .of_eq (pumpTimers_desk config state expired)
  | pumpQueues ids =>
      obtain rfl := Option.some.inj ran
      refine .of_eq ?_
      unfold pumpQueues
      split
      next => split <;> rfl
      next => rfl
  | processJfcPublications id =>
      obtain rfl := Option.some.inj ran
      refine .of_eq ?_
      unfold processJfcPublications
      split
      next => rfl
      next => split <;> rfl
  | admitJfcPublications id =>
      obtain rfl := Option.some.inj ran
      exact .of_eq (admitJfcPublications_desk config state id)
  | leaveJfcPublications id =>
      obtain rfl := Option.some.inj ran
      refine .of_eq ?_
      unfold leaveJfcPublications
      split
      next => rfl
      next => split <;> rfl
  | releasePublication id =>
      obtain rfl := Option.some.inj ran
      refine .of_eq ?_
      unfold releasePublication
      split <;> rfl
  | complete call ok =>
      obtain rfl := Option.some.inj ran
      exact .of_eq ((State.desk_push _ _).trans (State.desk_emit _ rfl))
  | emitCompletionEvent ticket id =>
      obtain rfl := Option.some.inj ran
      exact emitCompletionEvent_desk config state ticket id installs answer
  | releaseCompletionEventSlot ticket =>
      obtain rfl := Option.some.inj ran
      exact .of_eq ((State.desk_push _ _).trans (State.desk_emit _ rfl))
  | processCompletionEvent =>
      obtain rfl := Option.some.inj ran
      exact .of_eq (by unfold processCompletionEvent; split <;> rfl)
  | dispatchCompletionEvents =>
      obtain rfl := Option.some.inj ran
      exact dispatchCompletionEvents_desk _ state
  | maybeCompleteJfcDestroy =>
      obtain rfl := Option.some.inj ran
      exact maybeCompleteJfcDestroy_desk _ config state
  | maybeCompleteEqDestroy =>
      obtain rfl := Option.some.inj ran
      exact maybeCompleteEqDestroy_desk _ config state

theorem fire_desk {callback : Callback} {index : Nat}
    (found : before.outstanding[index]? = some callback) (ok : Bool) (bytes : Bytes)
    (enqueues : Option Nat) :
    Desk.Move ⟨before.installsCeq (.fire index ok bytes), before.answer (.fire index ok bytes),
      enqueues⟩ before.desk
      (runCallback config (before.withOutstanding (before.outstanding.eraseIdx index)) ok bytes
        callback).desk := by
  cases callback with
  | consumerRead ticket id publication =>
      exact .of_eq ((publish_desk config _ ticket id publication _).trans
        (State.desk_withdraw found rfl rfl))
  | cqeWritten ticket id publication =>
      exact .of_eq ((cqeWritten_desk config _ ticket id publication ok).trans
        (State.desk_withdraw found rfl rfl))
  | ceqeWritten ticket ceqId vector => exact ceqeWritten_desk found (by simp [State.answer, found])
  | interruptRaised ticket => exact interruptRaised_desk _ found
  | contextRead command =>
      by_cases isCreate : command.opcode = .createCeq
      · exact contextRead_desk before found isCreate ok bytes _ enqueues
      · exact .of_eq ((contextRead_other _ ok bytes isCreate).trans
          (State.desk_withdraw found rfl (by simp [Callback.createdCeq, isCreate])))
  | queryRead command =>
      exact .of_eq ((queryRead_desk _ command ok bytes).trans (State.desk_withdraw found rfl rfl))
  | queryWritten command =>
      exact .of_eq ((queryWritten_desk _ command ok).trans (State.desk_withdraw found rfl rfl))
  | descriptorWritten => exact .of_eq (State.desk_withdraw found rfl rfl)

theorem environment_desk {event : Event} (enqueues : Option Nat)
    (acted : environment config before event = some after) :
    Desk.Move ⟨before.installsCeq event, before.answer event, enqueues⟩ before.desk after.desk := by
  cases event with
  | run => simp [environment] at acted
  | beginPass expired => simp [environment] at acted
  | fire index ok bytes =>
      simp only [environment] at acted
      cases found : before.outstanding[index]? with
      | none => simp [found] at acted
      | some callback =>
          simp only [found, Option.some.injEq] at acted
          subst acted
          exact fire_desk found ok bytes enqueues
  | writeCqe id cqe =>
      obtain rfl := Option.some.inj acted
      exact .of_eq (writeCqe_desk before id cqe)
  | mailbox command =>
      simp only [environment] at acted
      split at acted
      next => simp at acted
      next =>
        obtain rfl := Option.some.inj acted
        exact (handleUbaseMailbox_handled config { before with ubaseBusy := true } command).desk _
  | ceqDoorbell value =>
      obtain rfl := Option.some.inj acted
      exact ceqDoorbell_desk _ before value
  | jfcDoorbell value =>
      obtain rfl := Option.some.inj acted
      refine .of_eq ?_
      unfold jfcDoorbell
      simp only
      split
      next => exact State.desk_emit _ rfl
      next => rfl
  | advanceTime now =>
      simp only [environment] at acted
      split at acted
      next =>
        obtain rfl := Option.some.inj acted
        exact .kept
      next =>
        obtain rfl := Option.some.inj acted
        exact .kept

/-- What a step does to the event engine. -/
theorem step_desk {event : Event} (taken : step config before event = some after) :
    Desk.Move (before.notice config event) before.desk after.desk := by
  rcases step_kinds taken with ⟨task, rest, rfl, shape, ran⟩ | ⟨expired, rest, _, _, rfl⟩ | acted
  · have enqueues : before.enqueues config .run = task.enqueues config (before.withStack rest) := by
      simp only [State.enqueues, shape, List.head?_cons, Option.bind_some]
      cases task <;> rfl
    unfold State.notice
    rw [enqueues]
    exact runTask_desk _ _ ran
  · exact .kept
  · exact environment_desk _ acted

/-! ## The event in progress -/

/-- Event in progress: its callback, its CEQ and the busy flag belong together. -/
structure Desk.Watched (desk : Desk) : Prop where
  single : desk.calls.length = desk.busy.toNat
  active : ∀ ticket ceqId vector, .ceqeWritten ticket ceqId vector ∈ desk.calls →
    desk.writing = true ∧ desk.active = ceqId ∧ (desk.ceqs.lookup ceqId).isSome
  written : desk.writing = true →
    ∃ ticket vector, .ceqeWritten ticket desk.active vector ∈ desk.calls

namespace Desk.Watched

variable {desk next : Desk}

/-- Nothing is in progress. -/
theorem of_idle (none : desk.calls = []) (idle : desk.busy = false)
    (quiet : desk.writing = false) : desk.Watched where
  single := by rw [none, idle]; rfl
  active := by
    intro ticket ceqId vector held
    rw [none] at held
    simp at held
  written := by simp [quiet]

/-- The callback that is called was the only one. -/
theorem only (watched : desk.Watched) {callback : Callback} {earlier later : List Callback}
    (shape : desk.calls = earlier ++ callback :: later) :
    earlier = [] ∧ later = [] ∧ desk.busy = true := by
  have single := watched.single
  have bound := Bool.toNat_le desk.busy
  rw [shape, List.length_append, List.length_cons] at single
  exact ⟨List.length_eq_zero_iff.mp (by omega), List.length_eq_zero_iff.mp (by omega),
    Bool.toNat_eq_one.mp (by omega)⟩

/-- The entry of an event that awaits its interrupt has been written. -/
theorem quiet_of_raise (watched : desk.Watched) {ticket : Nat} {earlier later : List Callback}
    (shape : desk.calls = earlier ++ .interruptRaised ticket :: later) : desk.writing = false := by
  obtain ⟨rfl, rfl, _⟩ := watched.only shape
  by_contra writing
  obtain ⟨other, vector, held⟩ := watched.written (by simpa using writing)
  simp [shape] at held

theorem busy_of_write (watched : desk.Watched) {callback : Callback}
    (held : callback ∈ desk.calls) : desk.busy = true := by
  obtain ⟨earlier, later, shape⟩ := List.append_of_mem held
  exact (watched.only shape).2.2

/-- A change of the CEQs that keeps the one in use. -/
theorem of_ceqs (watched : desk.Watched) {ceqs : Map Ceq}
    (kept : ∀ ceqId, desk.busy = true → desk.active = ceqId → (desk.ceqs.lookup ceqId).isSome →
      (ceqs.lookup ceqId).isSome) :
    Desk.Watched { desk with ceqs := ceqs } where
  single := watched.single
  active := by
    intro ticket ceqId vector held
    obtain ⟨writing, same, present⟩ := watched.active ticket ceqId vector held
    exact ⟨writing, same, kept ceqId (watched.busy_of_write held) same present⟩
  written := watched.written

/-- Installing or updating a CEQ. -/
theorem insert (watched : desk.Watched) (id : Nat) (ceq : Ceq) :
    Desk.Watched { desk with ceqs := desk.ceqs.insert id ceq } := by
  refine watched.of_ceqs ?_
  intro other _ _ present
  by_cases same : other = id
  · rw [same, AList.lookup_insert]
    rfl
  · rwa [AList.lookup_insert_ne same]

/-- What only the events, the create commands and the history notice. -/
theorem of_eq (watched : desk.Watched) (calls : next.calls = desk.calls)
    (busy : next.busy = desk.busy) (writing : next.writing = desk.writing)
    (active : next.active = desk.active) (ceqs : next.ceqs = desk.ceqs) : next.Watched where
  single := by rw [calls, busy, watched.single]
  active := by
    intro ticket ceqId vector held
    rw [writing, active, ceqs]
    exact watched.active ticket ceqId vector (calls ▸ held)
  written := by
    rw [writing, active, calls]
    exact watched.written

theorem move {notice : Notice} (watched : desk.Watched) (moved : desk.Move notice next) :
    next.Watched := by
  cases moved with
  | kept => exact watched
  | enqueued event own => exact watched.of_eq rfl rfl rfl rfl rfl
  | dropped event earlier later shape absent => exact watched.of_eq rfl rfl rfl rfl rfl
  | started event ceq earlier later idle shape present sound credit =>
      have none : desk.calls = [] := by
        have single := watched.single
        rw [idle] at single
        exact List.length_eq_zero_iff.mp single
      constructor
      · simp [none]
      · intro ticket ceqId vector held
        obtain ⟨rfl, rfl, rfl⟩ : ticket = event.ticket ∧ ceqId = event.ceqId ∧
            vector = ceq.vector := by simpa [none] using held
        exact ⟨rfl, rfl, by simp [present]⟩
      · intro _
        exact ⟨event.ticket, ceq.vector, by simp⟩
  | acknowledged ticket ceqId vector earlier later ceq answer shape present =>
      obtain ⟨rfl, rfl, busy⟩ := watched.only shape
      constructor
      · simp [busy]
      · intro other otherCeq otherVector held
        simp at held
      · simp
  | refused ticket ceqId vector earlier later ceq answer shape present =>
      obtain ⟨rfl, rfl, _⟩ := watched.only shape
      exact of_idle rfl rfl rfl
  | missing ticket ceqId vector earlier later shape absent =>
      have held : Callback.ceqeWritten ticket ceqId vector ∈ desk.calls := by simp [shape]
      have present := (watched.active ticket ceqId vector held).2.2
      simp [absent] at present
  | raised ticket earlier later shape =>
      have quiet := watched.quiet_of_raise shape
      obtain ⟨rfl, rfl, _⟩ := watched.only shape
      exact of_idle rfl rfl quiet
  | rung id delta ceq present sound credit => exact watched.insert id _
  | asked tag free => exact watched.of_eq rfl rfl rfl rfl rfl
  | installed tag context ceq earlier later installs shape decoded =>
      exact (watched.insert tag ceq).of_eq rfl rfl rfl rfl rfl
  | declined tag earlier later shape => exact watched.of_eq rfl rfl rfl rfl rfl
  | erased tag free =>
      refine watched.of_ceqs ?_
      intro ceqId busy active present
      have other : ceqId ≠ tag := by
        rintro rfl
        exact free.2 ⟨busy, active⟩
      rwa [AList.lookup_erase_ne other]

end Desk.Watched

theorem watched_of_reaches {guard : State → Event → State → Prop}
    (reached : Reaches (step config) guard .initial state) : state.desk.Watched := by
  refine reached.induction_on (fun state => state.desk.Watched) ?_ ?_
  · exact Desk.Watched.of_idle rfl rfl rfl
  · intro before event after _ watched taken _
    exact watched.move (step_desk taken)

/-- The callbacks that are outstanding find what they look up. -/
theorem Desk.Watched.attended (watched : state.desk.Watched) :
    ∀ callback ∈ state.outstanding, callback.attended state := by
  intro callback membership
  cases callback with
  | ceqeWritten ticket ceqId vector =>
      exact (watched.active ticket ceqId vector (List.mem_filter.mpr ⟨membership, rfl⟩)).2.2
  | _ => trivial

end Udma.Cq
