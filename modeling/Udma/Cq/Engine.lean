import Mathlib
import Udma.Arithmetic.Sequence
import Udma.Cq.State

/-!
# The completion functions

One definition for each function of `udma_completion.cc`.  As in the send-queue
engine, a function runs up to its first call that may re-enter the engine, and
what is left of it is pushed on the stack.
-/

namespace Udma.Cq

open Udma.Abi Udma.Arithmetic

/-- The 32-bit `--value`. -/
def decrement32 (value : Nat) : Nat := if value = 0 then 2 ^ 32 - 1 else value - 1

namespace State

/-- Code to run, first task first, before the present top of the stack. -/
@[simps]
def push (state : State) (tasks : List Task) : State :=
  { state with stack := tasks ++ state.stack }

/-- Enter a host function with a callback. -/
@[simps]
def call (state : State) (callback : Callback) : State :=
  { state with
    outstanding := state.outstanding ++ [callback]
    stack := .external :: state.stack }

@[simps]
def emit (state : State) (observations : List Observation) : State :=
  { state with trace := state.trace ++ observations }

@[simps]
def setJfc (state : State) (id : Nat) (jfc : Jfc) : State :=
  { state with jfcs := state.jfcs.insert id jfc }

@[simps]
def setQueue (state : State) (id : Nat) (queue : PublicationQueue) : State :=
  { state with jfcPublications := state.jfcPublications.insert id queue }

/-- Take a completion-event slot: `++completion_event_slots_in_use_`. -/
@[simps]
def takeSlot (state : State) : State :=
  { state with
    completionEventSlotsInUse := (state.completionEventSlotsInUse + 1) % 2 ^ 32
    tickets := state.tickets + 1 }

/-- Give a completion-event slot back: `--completion_event_slots_in_use_`. -/
@[simps]
def returnSlot (state : State) : State :=
  { state with completionEventSlotsInUse := decrement32 state.completionEventSlotsInUse }

end State

/-! ## CQ arithmetic -/

/-- CQ indices have 22 bits. -/
def indexMask : Nat := 0x3fffff

/-- Entries between the producer and the cached consumer. -/
def Jfc.used (jfc : Jfc) : Nat := sub32 jfc.producer jfc.consumer &&& indexMask

/-- The same with a consumer index that has just been read. -/
def Jfc.usedSince (jfc : Jfc) (consumer : Nat) : Nat :=
  sub32 (jfc.producer &&& indexMask) consumer &&& indexMask

def cqeBytes : Nat := 64

/-- `abi::MakeCqe`. -/
def makeCqe (owner : Bool) (cqe : Cqe) : Bytes :=
  store32 (cqe.receive.toNat ||| (cqe.jetty.toNat <<< 1) ||| (owner.toNat <<< 2) |||
      ((cqe.opcode &&& 7) <<< 4) ||| (cqe.substatus <<< 16) ||| (cqe.status <<< 24)) ++
    store32 (cqe.entryIndex ||| ((cqe.localId &&& 0xffff) <<< 16)) ++
    store32 (((cqe.localId >>> 16) &&& 0xf) ||| ((cqe.remoteId &&& 0xfffff) <<< 4)) ++
    store32 (cqe.tpn &&& 0xffffff) ++ store32 cqe.byteCount ++ store64 cqe.userData ++
    store32 (cqe.remoteEid &&& 0xfffff) ++ List.replicate 12 0 ++ store64 cqe.immediate ++
    List.replicate 12 0

/-! ## Publication -/

/-- What `finish` of `WriteCqeNow` runs: the completion it was given, which is the
caller's callback and the release of the queue, and the release of the slot. -/
def finish (ticket id call : Nat) (ok : Bool) : List Task :=
  [.complete call ok, .releasePublication id, .releaseCompletionEventSlot ticket]

/-- The gate of `WriteCqe`: the JFC, or the CEQ it reports to, is being destroyed. -/
def State.draining (state : State) (id : Nat) : Bool :=
  state.drainingJfcId == some id ||
    (state.jfcCeqs.lookup id).any fun ceqId => state.drainingCeqId == some ceqId

def writeCqe (state : State) (id : Nat) (cqe : Cqe) : State :=
  let publication : Publication :=
    ⟨state.calls, (state.jfcs.lookup id).map Jfc.generation, cqe⟩
  let called := { state with calls := state.calls + 1 }.emit [.called id publication]
  if state.draining id then called.push [.complete publication.call false]
  else
    let queue := (state.jfcPublications.lookup id).getD {}
    ((called.setQueue id { queue with pending := queue.pending ++ [publication] }).emit
      [.accepted publication.call id]).push [.pumpCompletionWork]

/-- The owner bit of the CQE at the producer. -/
def Jfc.owner (jfc : Jfc) : Bool := (jfc.producer / jfc.depth) &&& 1 == 0

/-- The address of the CQ slot at the producer. -/
def Jfc.slotAddress (jfc : Jfc) : Nat :=
  jfc.queueIova + (jfc.producer &&& (jfc.depth - 1)) * cqeBytes

/-- The contexts with a CQE write under way.  In pipelined mode the slot is reserved
before the write is issued. -/
def reserveCqe (config : Config) (state : State) (id : Nat) (jfc : Jfc) (consumer : Nat) :
    State :=
  if config.pipelinedCompletionDma then
    { state.setJfc id
        { jfc with
          consumer := consumer
          cqeWritePending := true
          producer := jfc.producer + 1 } with
      jfcCqeDmaInFlight := state.jfcCqeDmaInFlight.insert id
        ((state.jfcCqeDmaInFlight.lookup id).getD 0 + 1) }
  else state.setJfc id { jfc with consumer := consumer, cqeWritePending := true }

/-- The lambda `publish` of `WriteCqeNow`; `none` is a failed or short read. -/
def publish (config : Config) (state : State) (ticket id : Nat) (publication : Publication)
    (consumer : Option Nat) : State :=
  match consumer, state.jfcs.lookup id with
  | some consumer, some jfc =>
      if jfc.depth ≤ jfc.usedSince consumer then
        state.push (finish ticket id publication.call false)
      else
        ((reserveCqe config state id jfc consumer).emit
          [.cqeDma publication.call id jfc.generation jfc.producer jfc.slotAddress
            (makeCqe jfc.owner publication.cqe)]).call (.cqeWritten ticket id publication)
  | _, _ => state.push (finish ticket id publication.call false)

/-- In pipelined mode the cached consumer is used as long as it leaves room. -/
def writeCqeNow (config : Config) (state : State) (ticket id : Nat)
    (publication : Publication) : State :=
  match state.jfcs.lookup id with
  | none => state.push (finish ticket id publication.call false)
  | some jfc =>
      if config.pipelinedCompletionDma ∧ jfc.used < jfc.depth then
        publish config state ticket id publication (some (jfc.consumer &&& indexMask))
      else state.call (.consumerRead ticket id publication)

/-- The callback of the consumer-index read. -/
def consumerRead (config : Config) (state : State) (ticket id : Nat)
    (publication : Publication) (ok : Bool) (bytes : Bytes) : State :=
  publish config state ticket id publication
    (if ok && bytes.length == 4 then some (load32 bytes 0 &&& indexMask) else none)

/-- Moderation periods in microseconds. -/
def periodUs : List Nat := [0, 4, 16, 64, 256, 1024, 4096, 16384]

/-- The context of a JFC that awaits more CQEs: its moderation timer is running. -/
def Jfc.armModeration (jfc : Jfc) (now : Nat) : Jfc :=
  if jfc.moderationDeadline = 0 ∧ jfc.moderationPeriod ≠ 0 then
    { jfc with
      moderationDeadline := (now + periodUs.getD jfc.moderationPeriod 0 * 1000000) % 2 ^ 64 }
  else jfc

/-- The visible CQE: count it, and notify unless more of them are awaited. -/
def moderate (state : State) (ticket id call : Nat) (jfc : Jfc) : State :=
  if jfc.pendingCompletions + 1 < jfc.moderationCount then
    (state.setJfc id
      ({ jfc with pendingCompletions := jfc.pendingCompletions + 1 }.armModeration state.now)).push
        (finish ticket id call true)
  else
    ((state.setJfc id { jfc with pendingCompletions := 0, moderationDeadline := 0 }).emit
      [.notifying ticket id]).push
        [.emitCompletionEvent ticket id, .complete call true, .releasePublication id]

/-- The CQE writes of a JFC in flight after one of `left + 1` has ended. -/
def settleCqe (state : State) (id : Nat) (jfc : Jfc) (left : Nat) : State :=
  { state.setJfc id { jfc with cqeWritePending := left != 0 } with
    jfcCqeDmaInFlight :=
      if left = 0 then state.jfcCqeDmaInFlight.erase id
      else state.jfcCqeDmaInFlight.insert id left }

/-- The callback of the CQE write. -/
def cqeWritten (config : Config) (state : State) (ticket id : Nat)
    (publication : Publication) (ok : Bool) : State :=
  match state.jfcs.lookup id with
  | none => state.push (finish ticket id publication.call false)
  | some jfc =>
      if config.pipelinedCompletionDma then
        match state.jfcCqeDmaInFlight.lookup id with
        | none | some 0 => state.push (finish ticket id publication.call false)
        | some (left + 1) =>
            if ok then
              moderate (settleCqe state id jfc left) ticket id publication.call
                { jfc with cqeWritePending := left != 0 }
            else (settleCqe state id jfc left).push (finish ticket id publication.call false)
      else if ok then
        moderate state ticket id publication.call
          { jfc with cqeWritePending := false, producer := jfc.producer + 1 }
      else
        (state.setJfc id { jfc with cqeWritePending := false }).push
          (finish ticket id publication.call false)

/-! ## Admission -/

def processJfcPublications (config : Config) (state : State) (id : Nat) : State :=
  match state.jfcPublications.lookup id with
  | none => state
  | some queue =>
      if queue.dispatching ∨ (¬ config.pipelinedCompletionDma ∧ queue.running) then state
      else (state.setQueue id { queue with dispatching := true }).push
        [.admitJfcPublications id]

/-- In pipelined mode a missing JFC, or a CQ that the cached consumer shows full
while another publication is in flight, ends the loop. -/
def mayAdmit (config : Config) (state : State) (id : Nat) (queue : PublicationQueue) : Bool :=
  !config.pipelinedCompletionDma ||
    match state.jfcs.lookup id with
    | none => false
    | some jfc => decide (jfc.used < jfc.depth) || queue.inFlight == 0

/-- The queue after its first publication was admitted. -/
def PublicationQueue.admitted (config : Config) (queue : PublicationQueue)
    (rest : List Publication) : PublicationQueue :=
  if config.pipelinedCompletionDma then
    { queue with pending := rest, inFlight := queue.inFlight + 1 }
  else { queue with pending := rest, running := true }

/-- The queue after an admitted publication was released. -/
def PublicationQueue.released (config : Config) (queue : PublicationQueue) : PublicationQueue :=
  if config.pipelinedCompletionDma then { queue with inFlight := queue.inFlight - 1 }
  else { queue with running := false }

/-- Take the slot for a publication that has left the queue. -/
def grant (config : Config) (state : State) (id : Nat) (queue : PublicationQueue)
    (publication : Publication) (rest : List Publication) : State :=
  (({ state.setQueue id (queue.admitted config rest) with
      lastJfcAdmitted := some id }.takeSlot).emit
    [.admitted state.tickets publication.call id]).push
      [if config.pipelinedCompletionDma then .admitJfcPublications id
       else .leaveJfcPublications id]

def admitJfcPublications (config : Config) (state : State) (id : Nat) : State :=
  match state.jfcPublications.lookup id with
  | none => state
  | some queue =>
      match queue.pending with
      | [] => state.push [.leaveJfcPublications id]
      | publication :: rest =>
          if (¬ queue.running ∨ config.pipelinedCompletionDma) ∧
              state.completionEventSlotsInUse < config.completionEventSlots ∧
              mayAdmit config state id queue then
            writeCqeNow config (grant config state id queue publication rest)
              state.tickets id publication
          else state.push [.leaveJfcPublications id]

def leaveJfcPublications (state : State) (id : Nat) : State :=
  match state.jfcPublications.lookup id with
  | none => state
  | some queue =>
      if ¬ queue.running ∧ queue.inFlight = 0 ∧ queue.pending = [] then
        { state with jfcPublications := state.jfcPublications.erase id }.push
          [.maybeCompleteJfcDestroy, .maybeCompleteEqDestroy]
      else state.setQueue id { queue with dispatching := false }

/-- A publication in flight keeps its queue in the map. -/
def releasePublication (config : Config) (state : State) (id : Nat) : State :=
  match state.jfcPublications.lookup id with
  | none => state.push [.pumpCompletionWork]
  | some queue =>
      (state.setQueue id (queue.released config)).push [.pumpCompletionWork]

def releaseCompletionEventSlot (state : State) (ticket : Nat) : State :=
  (state.returnSlot.emit [.slotReleased ticket]).push [.pumpCompletionWork]

/-! ## The pump -/

def pumpCompletionWork (state : State) : State :=
  if state.completionWorkDispatching then { state with completionWorkKick := true }
  else { state with completionWorkKick := true, completionWorkDispatching := true }.push
    [.pumpPass]

/-- The JFCs whose moderation timer has expired. -/
def State.expired (state : State) : List Nat :=
  (state.jfcs.entries.filter fun entry =>
    entry.2.pendingCompletions ≠ 0 ∧ entry.2.moderationDeadline ≠ 0 ∧
      entry.2.moderationDeadline ≤ state.now).map (·.1)

/-- The publication queues, in ascending order from the one after the last served. -/
def State.rotation (state : State) : List Nat :=
  let ids := state.jfcPublications.keys.insertionSort (· ≤ ·)
  match state.lastJfcAdmitted with
  | none => ids
  | some last =>
      ids.dropWhile (fun id => decide (id ≤ last)) ++
        ids.takeWhile (fun id => decide (id ≤ last))

/-- One expired timer. -/
def pumpTimer (state : State) (id : Nat) (rest : List Nat) : State :=
  match state.jfcs.lookup id with
  | none => state.push [.pumpTimers rest]
  | some jfc =>
      (((state.setJfc id { jfc with pendingCompletions := 0, moderationDeadline := 0 }).takeSlot).emit
        [.timerFired state.tickets id]).push
          [.emitCompletionEvent state.tickets id, .pumpTimers rest]

def pumpTimers (config : Config) (state : State) : List Nat → State
  | [] => state.push [.pumpQueues state.rotation]
  | id :: rest =>
      if config.completionEventSlots ≤ state.completionEventSlotsInUse then
        state.push [.pumpQueues state.rotation]
      else pumpTimer state id rest

def pumpQueues (state : State) : List Nat → State
  | [] =>
      if state.completionWorkKick then state.push [.pumpPass]
      else { state with completionWorkDispatching := false }
  | id :: rest => state.push [.processJfcPublications id, .pumpQueues rest]

/-! ## Completion events -/

def emitCompletionEvent (config : Config) (state : State) (ticket id : Nat) : State :=
  if config.oneShotJfcNotifications ∧ (state.armedJfcs.lookup id).getD false = false then
    state.push [.releaseCompletionEventSlot ticket]
  else
    let disarmed := if config.oneShotJfcNotifications then
        { state with armedJfcs := state.armedJfcs.insert id false }
      else state
    match state.jfcCeqs.lookup id with
    | none => disarmed.push [.releaseCompletionEventSlot ticket]
    | some ceqId =>
        let event : CompletionEvent := ⟨ticket, id, ceqId⟩
        ({ disarmed with completionEvents := state.completionEvents ++ [event] }.emit
          [.enqueued id ceqId]).push [.processCompletionEvent]

/-- An event whose CEQ is gone, or has a free entry. -/
def State.eligible (state : State) (event : CompletionEvent) : Bool :=
  match state.ceqs.lookup event.ceqId with
  | none => true
  | some ceq => !ceq.creditFault && decide (sub32 ceq.producer ceq.consumer < ceq.depth)

def processCompletionEvent (state : State) : State :=
  if state.completionEventBusy ∨ state.completionEventDispatching then state
  else { state with completionEventDispatching := true }.push [.dispatchCompletionEvents]

/-- The event queue entry: the JFC number and the phase bit. -/
def ceqeImage (ceq : Ceq) (jfcId : Nat) : Bytes :=
  store32 ((jfcId &&& 0xfffff) ||| (if ceq.producer &&& ceq.depth = 0 then 1 <<< 31 else 0)) ++
    List.replicate 60 0

/-- Start the write of an event that has been taken off the queue. -/
def writeCeqe (state : State) (event : CompletionEvent) (ceq : Ceq) : State :=
  ({ state with
      completionEventBusy := true
      ceqWritePending := true
      activeCeqId := event.ceqId
      activeEventJfcId := event.jfcId }.emit
    [.ceqeDma event.ceqId ceq.producer
      (ceq.iova + (ceq.producer &&& (ceq.depth - 1)) * 64) (ceqeImage ceq event.jfcId)]).call
    (.ceqeWritten event.ticket event.ceqId ceq.vector)

def leaveCompletionEvents (state : State) : State :=
  { state with completionEventDispatching := false }.push
    [.maybeCompleteEqDestroy, .maybeCompleteJfcDestroy]

def dispatchCompletionEvents (state : State) : State :=
  if state.completionEventBusy then leaveCompletionEvents state
  else
    match state.completionEvents.find? state.eligible with
    | none => leaveCompletionEvents state
    | some event =>
        let taken := { state with
          completionEvents := state.completionEvents.eraseP state.eligible }
        match state.ceqs.lookup event.ceqId with
        | none => taken.push
            [.releaseCompletionEventSlot event.ticket, .dispatchCompletionEvents]
        | some ceq => writeCeqe (taken.push [.dispatchCompletionEvents]) event ceq

/-- What follows the end of an event. -/
def eventEnded (ticket : Nat) : List Task :=
  [.releaseCompletionEventSlot ticket, .maybeCompleteEqDestroy, .maybeCompleteJfcDestroy,
    .processCompletionEvent]

/-- The CEQ after its entry was written: the parked consumer takes effect. -/
def Ceq.advance (ceq : Ceq) : Ceq :=
  { ceq with
    producer := (ceq.producer + 1) % 2 ^ 32
    consumer := if ceq.consumerPending then ceq.pendingConsumer else ceq.consumer
    consumerPending := false }

/-- The CEQ after its entry could not be written. -/
def Ceq.refuse (ceq : Ceq) : Ceq :=
  { ceq with
    consumerPending := false
    creditFault := ceq.creditFault || ceq.consumerPending }

/-- The callback of the CEQE write. -/
def ceqeWritten (state : State) (ticket ceqId : Nat) (ok : Bool) : State :=
  let landed := { state with ceqWritePending := false }
  match state.ceqs.lookup ceqId with
  | none => landed.emit [.missingCeq ceqId]
  | some ceq =>
      if ok then
        { landed with ceqs := state.ceqs.insert ceqId ceq.advance }.call
          (.interruptRaised ticket)
      else
        { landed with
          ceqs := state.ceqs.insert ceqId ceq.refuse
          completionEventBusy := false }.push (eventEnded ticket)

/-- The callback of `RaiseInterrupt`. -/
def interruptRaised (state : State) (ticket : Nat) : State :=
  { state with completionEventBusy := false }.push (eventEnded ticket)

end Udma.Cq
