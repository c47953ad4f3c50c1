import Udma.Cq.Events
import Udma.Cq.Ledger

/-!
# The lane of one JFC

What a JFC looks like to the publications that pass through it: the ring that
decides where the next CQE goes, the publications that wait, read the consumer
index or write their CQE, and what the trace records of them.  Most steps leave
every lane alone; `Aside` says what they leave alone.
-/

namespace Udma.Cq

open Udma.Abi Udma.Arithmetic Udma.Collections

/-- The fields of a JFC that decide where the next CQE goes. -/
structure Ring where
  generation : Nat
  queueIova : Nat
  shift : Fin 16
  producer : Nat
  consumer : Nat
  deriving DecidableEq, Repr

def Jfc.ring (jfc : Jfc) : Ring :=
  ⟨jfc.generation, jfc.queueIova, jfc.shift, jfc.producer, jfc.consumer⟩

def Ring.depth (ring : Ring) : Nat := 1 <<< (ring.shift.val + 6)

def Ring.used (ring : Ring) : Nat := sub32 ring.producer ring.consumer &&& indexMask

/-- The same with a consumer index that has just been read. -/
def Ring.usedSince (ring : Ring) (consumer : Nat) : Nat :=
  sub32 (ring.producer &&& indexMask) consumer &&& indexMask

/-- A CQ slot given to a publication, and what is written there. -/
structure Slot where
  call : Nat
  generation : Nat
  producer : Nat
  address : Nat
  bytes : Bytes
  deriving DecidableEq, Repr

/-- The slot at the producer of a ring. -/
@[simps]
def Ring.slot (ring : Ring) (publication : Publication) : Slot where
  call := publication.call
  generation := ring.generation
  producer := ring.producer
  address := ring.queueIova + (ring.producer &&& (ring.depth - 1)) * cqeBytes
  bytes := makeCqe ((ring.producer / ring.depth) &&& 1 == 0) publication.cqe

@[simp]
theorem Jfc.ring_depth (jfc : Jfc) : jfc.ring.depth = jfc.depth := rfl

@[simp]
theorem Jfc.ring_used (jfc : Jfc) : jfc.ring.used = jfc.used := rfl

def Callback.reading (id : Nat) : Callback → Option Publication
  | .consumerRead _ own publication => if own = id then some publication else none
  | _ => none

def Callback.writing (id : Nat) : Callback → Option Publication
  | .cqeWritten _ own publication => if own = id then some publication else none
  | _ => none

def Observation.announced (id : Nat) : Observation → Option Publication
  | .called own publication => if own = id then some publication else none
  | _ => none

def Observation.acceptedCall (id : Nat) : Observation → Option Nat
  | .accepted call own => if own = id then some call else none
  | _ => none

def Observation.slot (id : Nat) : Observation → Option Slot
  | .cqeDma call own generation producer address bytes =>
      if own = id then some ⟨call, generation, producer, address, bytes⟩ else none
  | _ => none

/-- The last two fields are the history counters, which all lanes share. -/
@[ext]
structure Lane where
  ring : Option Ring
  load : Nat
  pending : List Publication
  reading : List Publication
  writing : List Publication
  announced : List Publication
  accepted : List Nat
  slots : List Slot
  calls : Nat
  generations : Nat

def State.ring (state : State) (id : Nat) : Option Ring := (state.jfcs.lookup id).map Jfc.ring

def State.pendingFor (state : State) (id : Nat) : List Publication :=
  ((state.jfcPublications.lookup id).map PublicationQueue.pending).getD []

/-- The slots that the trace shows for a JFC, in the order they were given. -/
def slotsOf (id : Nat) (trace : List Observation) : List Slot :=
  trace.filterMap (Observation.slot id)

/-- The calls that `WriteCqe` accepted for a JFC, in order. -/
def acceptedFor (id : Nat) (trace : List Observation) : List Nat :=
  trace.filterMap (Observation.acceptedCall id)

/-- The publications that `WriteCqe` was asked for, in order. -/
def announcedFor (id : Nat) (trace : List Observation) : List Publication :=
  trace.filterMap (Observation.announced id)

def State.lane (config : Config) (state : State) (id : Nat) : Lane where
  ring := state.ring id
  load := state.load config id
  pending := state.pendingFor id
  reading := state.outstanding.filterMap (Callback.reading id)
  writing := state.outstanding.filterMap (Callback.writing id)
  announced := announcedFor id state.trace
  accepted := acceptedFor id state.trace
  slots := slotsOf id state.trace
  calls := state.calls
  generations := state.generations

/-! ## Steps beside the lanes -/

/-- Observations that concern no lane and no command. -/
def Observation.aside : Observation → Bool
  | .called _ _ | .accepted _ _ | .cqeDma _ _ _ _ _ _ | .writeBack _ _ => false
  | _ => true

/-- The progress of the mailbox commands. -/
structure Paperwork (state after : State) : Prop where
  calls : after.outstanding.filter Callback.mailbox = state.outstanding.filter Callback.mailbox
  ubaseBusy : after.ubaseBusy = state.ubaseBusy
  jfcDestroy : after.pendingJfcDestroy = state.pendingJfcDestroy
  eqDestroy : after.pendingEqDestroy = state.pendingEqDestroy
  jfcDraining : after.drainingJfcId = state.drainingJfcId
  eqDraining : after.drainingCeqId = state.drainingCeqId
  mappings : after.jfcCeqs = state.jfcCeqs

/-- A step beside the lanes and the commands. -/
structure Aside (state after : State) : Prop where
  ring : after.ring = state.ring
  queues : after.jfcPublications = state.jfcPublications
  held : after.outstanding.filter (fun callback => !callback.event) =
    state.outstanding.filter fun callback => !callback.event
  trace : after.trace.filter (fun observation => !observation.aside) =
    state.trace.filter fun observation => !observation.aside
  calls : after.calls = state.calls
  generations : after.generations = state.generations
  ubaseBusy : after.ubaseBusy = state.ubaseBusy
  jfcDestroy : after.pendingJfcDestroy = state.pendingJfcDestroy
  eqDestroy : after.pendingEqDestroy = state.pendingEqDestroy
  jfcDraining : after.drainingJfcId = state.drainingJfcId
  eqDraining : after.drainingCeqId = state.drainingCeqId
  mappings : after.jfcCeqs = state.jfcCeqs

namespace Aside

variable {state changed after : State}

theorem refl (state : State) : Aside state state :=
  ⟨rfl, rfl, rfl, rfl, rfl, rfl, rfl, rfl, rfl, rfl, rfl, rfl⟩

theorem then_push (aside : Aside state changed) (tasks : List Task) :
    Aside state (changed.push tasks) := { aside with }

theorem then_emit (aside : Aside state changed) {observations : List Observation}
    (silent : ∀ observation ∈ observations, observation.aside = true) :
    Aside state (changed.emit observations) :=
  { aside with
    trace := by
      have none : observations.filter (fun observation => !observation.aside) = [] :=
        List.filter_eq_nil_iff.mpr fun observation membership => by
          simp [silent observation membership]
      rw [State.emit_trace, List.filter_append, none, List.append_nil, aside.trace] }

theorem then_call (aside : Aside state changed) {callback : Callback}
    (own : callback.event = true) : Aside state (changed.call callback) :=
  { aside with
    held := by
      rw [State.call_outstanding, List.filter_append, aside.held]
      simp [own] }

theorem paperwork (aside : Aside state after) : Paperwork state after where
  calls := by
    have mailboxed (callbacks : List Callback) :
        callbacks.filter Callback.mailbox =
          (callbacks.filter fun callback => !callback.event).filter Callback.mailbox := by
      rw [List.filter_filter]
      congr 1
      funext callback
      cases callback <;> rfl
    rw [mailboxed, aside.held, ← mailboxed]
  ubaseBusy := aside.ubaseBusy
  jfcDestroy := aside.jfcDestroy
  eqDestroy := aside.eqDestroy
  jfcDraining := aside.jfcDraining
  eqDraining := aside.eqDraining
  mappings := aside.mappings

/-- What is read off the callbacks that are not about events. -/
theorem gathered {Value : Type} (aside : Aside state after) (read : Callback → Option Value)
    (blind : ∀ callback, callback.event = true → read callback = none) :
    after.outstanding.filterMap read = state.outstanding.filterMap read := by
  have selected (callbacks : List Callback) : callbacks.filterMap read =
      (callbacks.filter fun callback => !callback.event).filterMap read := by
    rw [List.filterMap_filter]
    congr 1
    funext callback
    cases own : callback.event <;> simp [blind callback, own]
  rw [selected, aside.held, ← selected]

theorem recorded {Value : Type} (aside : Aside state after) (read : Observation → Option Value)
    (blind : ∀ observation, observation.aside = true → read observation = none) :
    after.trace.filterMap read = state.trace.filterMap read := by
  have selected (trace : List Observation) : trace.filterMap read =
      (trace.filter fun observation => !observation.aside).filterMap read := by
    rw [List.filterMap_filter]
    congr 1
    funext observation
    cases own : observation.aside <;> simp [blind observation, own]
  rw [selected, aside.trace, ← selected]

theorem lane (aside : Aside state after) (config : Config) (id : Nat) :
    after.lane config id = state.lane config id := by
  have ring := congrFun aside.ring id
  have load : after.load config id = state.load config id := by rw [State.load, aside.queues]; rfl
  have pending : after.pendingFor id = state.pendingFor id := by
    rw [State.pendingFor, aside.queues]
    rfl
  have reading := aside.gathered (Callback.reading id) fun callback own => by
    cases callback <;> first | rfl | simp [Callback.event] at own
  have writing := aside.gathered (Callback.writing id) fun callback own => by
    cases callback <;> first | rfl | simp [Callback.event] at own
  have announced := aside.recorded (Observation.announced id) fun observation own => by
    cases observation <;> first | rfl | simp [Observation.aside] at own
  have accepted := aside.recorded (Observation.acceptedCall id) fun observation own => by
    cases observation <;> first | rfl | simp [Observation.aside] at own
  have slots := aside.recorded (Observation.slot id) fun observation own => by
    cases observation <;> first | rfl | simp [Observation.aside] at own
  simp only [State.lane, announcedFor, acceptedFor, slotsOf, ring, load, pending, reading, writing,
    announced, accepted, slots, aside.calls, aside.generations]

end Aside

theorem State.ring_setJfc (state : State) (id : Nat) (jfc : Jfc) :
    (state.setJfc id jfc).ring = Function.update state.ring id (some jfc.ring) := by
  funext other
  by_cases same : other = id
  · subst same
    simp [State.ring]
  · simp [State.ring, AList.lookup_insert_ne same, Function.update_of_ne same]

/-- A change of a JFC outside its ring. -/
theorem State.ring_setJfc_same {state : State} {id : Nat} {old new : Jfc}
    (found : state.jfcs.lookup id = some old) (ring : new.ring = old.ring) :
    (state.setJfc id new).ring = state.ring := by
  have own : state.ring id = some old.ring := by simp [State.ring, found]
  rw [State.ring_setJfc, ring, ← own, Function.update_eq_self]

/-! ## The pump and the events -/

section Aside

variable {config : Config} {state after : State}

theorem pumpCompletionWork_aside (state : State) : Aside state (pumpCompletionWork state) := by
  unfold pumpCompletionWork
  split
  next => exact { Aside.refl state with }
  next =>
    apply Aside.then_push
    exact { Aside.refl state with }

theorem pumpTimers_aside (config : Config) (state : State) (expired : List Nat) :
    Aside state (pumpTimers config state expired) := by
  unfold pumpTimers pumpTimer
  split
  next => exact (Aside.refl state).then_push _
  next id rest =>
    split
    next => exact (Aside.refl state).then_push _
    next =>
      split
      next => exact (Aside.refl state).then_push _
      next jfc found =>
        refine Aside.then_push (Aside.then_emit ?_ (by simp [Observation.aside])) _
        exact { Aside.refl state with ring := State.ring_setJfc_same found rfl }

theorem pumpQueues_aside (state : State) (ids : List Nat) : Aside state (pumpQueues state ids) := by
  unfold pumpQueues
  split
  next =>
    split
    next => exact (Aside.refl state).then_push _
    next => exact { Aside.refl state with }
  next => exact (Aside.refl state).then_push _

theorem emitCompletionEvent_aside (config : Config) (state : State) (ticket id : Nat) :
    Aside state (emitCompletionEvent config state ticket id) := by
  unfold emitCompletionEvent
  simp only
  split
  next => exact (Aside.refl state).then_push _
  next =>
    split
    next =>
      apply Aside.then_push
      split <;> exact { Aside.refl state with }
    next =>
      refine Aside.then_push (Aside.then_emit ?_ (by simp [Observation.aside])) _
      split <;> exact { Aside.refl state with }

theorem processCompletionEvent_aside (state : State) :
    Aside state (processCompletionEvent state) := by
  unfold processCompletionEvent
  split
  next => exact Aside.refl state
  next =>
    apply Aside.then_push
    exact { Aside.refl state with }

theorem dispatchCompletionEvents_aside (state : State) :
    Aside state (dispatchCompletionEvents state) := by
  have left : Aside state (leaveCompletionEvents state) := by
    apply Aside.then_push
    exact { Aside.refl state with }
  unfold dispatchCompletionEvents
  split
  next => exact left
  next =>
    split
    next => exact left
    next =>
      simp only
      split
      next =>
        apply Aside.then_push
        exact { Aside.refl state with }
      next =>
        refine Aside.then_call (Aside.then_emit ?_ (by simp [Observation.aside])) rfl
        exact { Aside.refl state with }

theorem ceqeWritten_aside (state : State) (ticket ceqId : Nat) (ok : Bool) :
    Aside state (ceqeWritten state ticket ceqId ok) := by
  unfold ceqeWritten
  simp only
  split
  next =>
    refine Aside.then_emit ?_ (by simp [Observation.aside])
    exact { Aside.refl state with }
  next =>
    split
    next =>
      refine Aside.then_call ?_ rfl
      exact { Aside.refl state with }
    next =>
      apply Aside.then_push
      exact { Aside.refl state with }

/-- Activations that are beside the lanes and the commands. -/
def Task.aside : Task → Bool
  | .processJfcPublications _ | .admitJfcPublications _ | .leaveJfcPublications _
  | .releasePublication _ | .maybeCompleteJfcDestroy | .maybeCompleteEqDestroy => false
  | _ => true

theorem runTask_aside {task : Task} (other : task.aside = true)
    (ran : runTask config state task = some after) : Aside state after := by
  cases task with
  | external =>
      obtain rfl := Option.some.inj ran
      exact Aside.refl state
  | pumpCompletionWork =>
      obtain rfl := Option.some.inj ran
      exact pumpCompletionWork_aside state
  | pumpPass => simp [runTask] at ran
  | pumpTimers expired =>
      obtain rfl := Option.some.inj ran
      exact pumpTimers_aside config state expired
  | pumpQueues ids =>
      obtain rfl := Option.some.inj ran
      exact pumpQueues_aside state ids
  | complete call ok =>
      obtain rfl := Option.some.inj ran
      exact ((Aside.refl state).then_emit (by simp [Observation.aside])).then_push _
  | emitCompletionEvent ticket id =>
      obtain rfl := Option.some.inj ran
      exact emitCompletionEvent_aside config state ticket id
  | releaseCompletionEventSlot ticket =>
      obtain rfl := Option.some.inj ran
      refine Aside.then_push (Aside.then_emit ?_ (by simp [Observation.aside])) _
      exact { Aside.refl state with }
  | processCompletionEvent =>
      obtain rfl := Option.some.inj ran
      exact processCompletionEvent_aside state
  | dispatchCompletionEvents =>
      obtain rfl := Option.some.inj ran
      exact dispatchCompletionEvents_aside state
  | _ => simp [Task.aside] at other

theorem beginPass_aside (state : State) (expired : List Nat) :
    Aside state (beginPass state expired) := by
  apply Aside.then_push
  exact { Aside.refl state with }

theorem ceqDoorbell_aside (state : State) (value : Nat) : Aside state (ceqDoorbell state value) := by
  unfold ceqDoorbell
  simp only
  split
  next => exact Aside.refl state
  next =>
    split
    next => exact Aside.refl state
    next =>
      apply Aside.then_push
      exact { Aside.refl state with }

theorem jfcDoorbell_aside (config : Config) (state : State) (value : Nat) :
    Aside state (jfcDoorbell config state value) := by
  unfold jfcDoorbell
  simp only
  split
  next =>
    refine Aside.then_emit ?_ (by simp [Observation.aside])
    exact { Aside.refl state with }
  next => exact Aside.refl state

end Aside

end Udma.Cq
