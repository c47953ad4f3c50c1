import Mathlib
import Udma.Control.Responses

/-!
# The asynchronous event queue

A mailbox command may ask for an event when it is done.  The events wait in `mailbox_events_` and
are written one at a time into the asynchronous event queue (AEQ), which mailbox commands create
and destroy.  The commands come from the command queue, one at a time: the next is read when the
last has been answered.

A host function answers through its callback at any later time and in any order.  Of a command
for another resource only its end is modelled, and that a destroy may wait until the resource is
idle.  What the host has stored into the queue and the rows of events are history; the guest
clears the ring before it asks for the queue.
-/

namespace Udma.Aeq

open Udma.Abi
open Udma.Control (Job After store16)

/-- `aeq_iova_`, `aeq_depth_`, `aeq_producer_` and `aeq_vector_`. -/
structure Queue where
  iova : Nat := 0
  depth : Nat := 0
  producer : Nat := 0
  vector : Nat := 0
  deriving DecidableEq

namespace Queue

/-- The queue of a create command. -/
def decode (context : Bytes) : Queue :=
  { iova := ((Cq.word context 3 <<< 20) ||| (Cq.word context 2 >>> 12)) <<< 12
    depth := 1 <<< ((Cq.word context 1 &&& 0x1f) + 6)
    producer := 0
    vector := Cq.word context 6 &&& 0xffff }

/-- The queue after a destroy command. -/
def cleared (queue : Queue) : Queue := { queue with iova := 0, depth := 0, producer := 0 }

def usable (queue : Queue) : Bool :=
  queue.iova != 0 && queue.depth != 0 && queue.depth &&& (queue.depth - 1) == 0

def slot (queue : Queue) : Nat := queue.producer &&& (queue.depth - 1)

/-- The address of a 64-byte slot. -/
def address (queue : Queue) (slot : Nat) : Nat := (queue.iova + slot * 64) % 2 ^ 64

end Queue

/-- An event for a command that is done. -/
def eventImage (owner : Bool) (sequence : UInt16) : Bytes :=
  store32 (if owner then 0x13 ||| (1 <<< 31) else 0x13) ++ List.replicate 8 0 ++
    store16 sequence.toNat ++ List.replicate 50 0

/-- `PendingMailboxEvent`; `number` is history: how many events were asked for before. -/
structure Pending where
  number : Nat
  sequence : UInt16
  deriving DecidableEq

/-- A callback that the host holds. -/
inductive Callback where
  | contextRead (job : Job)
  /-- The last descriptor of an answer is written back. -/
  | recordWritten (status : Nat) (after : After)
  | eventWritten (pending : Pending) (address : Nat) (bytes : Bytes)
  | interruptRaised (vector : Nat) (pending : Pending)
  deriving DecidableEq

structure State where
  queue : Queue := {}
  aeqInFlight : Nat := 0
  mailboxEvents : List Pending := []
  /-- `pending_eq_destroy_`, while `draining_eq_command_` is `0x37`. -/
  pendingEqDestroy : Option Job := none
  /-- The destroy of another resource, in `pending_eq_destroy_`, `pending_jfc_destroy_` or
  `pending_queue_destroy_`. -/
  deferredDestroy : Option Job := none
  ubaseBusy : Bool := false
  ubaseCommandSource : Nat := 0
  ubaseErrors : Nat := 0
  outstanding : List Callback := []
  /-- History: the events asked for. -/
  emitted : List Pending := []
  /-- History: the events that have been completed, and how. -/
  completed : List (Pending × Bool) := []
  /-- History: how many had been completed when the queue was created. -/
  created : Nat := 0
  /-- History: the events that were stored since then. -/
  published : List Pending := []
  /-- History: what the host has stored since the queue was created. -/
  memory : Nat → Option Bytes := fun _ => none

namespace State

variable (state : State)

/-- Enter a host function with a callback. -/
def call (callback : Callback) : State :=
  { state with outstanding := state.outstanding ++ [callback] }

/-- The completion of an event counts errors. -/
def complete (pending : Pending) (ok : Bool) : State :=
  { state with
    ubaseErrors := state.ubaseErrors + if ok then 0 else 1
    completed := state.completed ++ [(pending, ok)] }

/-- `eq_busy` of the AEQ. -/
def busy : Bool := state.aeqInFlight != 0 || !state.mailboxEvents.isEmpty

def finishUbaseDescriptor (status : Nat) (after : After) : State :=
  state.call (.recordWritten status after)

def rejectUbase (status : Nat) : State :=
  { state with ubaseErrors := state.ubaseErrors + 1 }.finishUbaseDescriptor status .nothing

def failUbase : State :=
  { state with ubaseErrors := state.ubaseErrors + 1, ubaseBusy := false }

/-- A command for another resource ends. -/
def finishOther (job : Job) (status : Nat) : State :=
  if status = 0 then state.finishUbaseDescriptor 0 job.mailboxEvent
  else state.rejectUbase status

/-- The queue is created or destroyed. -/
def install (queue : Queue) : State :=
  { state with
    queue := queue
    created := state.completed.length
    published := []
    memory := fun _ => none }

/-- `HandleUbaseMailbox`.  A command for another resource ends with `status`, a destroy unless it
`waits` for the resource. -/
def handleUbaseMailbox (job : Job) (status : Nat) (waits : Bool) : State :=
  match job.mailbox with
  | .create .aeq =>
      if job.tag ≠ 0 then state.rejectUbase 95
      else if state.busy then state.rejectUbase 16
      else if job.contextIova = 0 then state.rejectUbase 22
      else state.call (.contextRead job)
  | .destroy .aeq =>
      if job.tag ≠ 0 then state.rejectUbase 95
      else if state.busy then { state with pendingEqDestroy := some job }
      else (state.install state.queue.cleared).finishUbaseDescriptor 0 job.mailboxEvent
  | .destroy _ =>
      if waits then { state with deferredDestroy := some job } else state.finishOther job status
  | _ => state.finishOther job status

/-- `ApplyUbaseMailbox` of a create command, after its context is read. -/
def applyUbaseMailbox (job : Job) (context : Bytes) : State :=
  if Control.acceptable .aeq job.tag context then
    (state.install (.decode context)).finishUbaseDescriptor 0 job.mailboxEvent
  else state.rejectUbase 22

def maybeCompleteEqDestroy : State :=
  match state.pendingEqDestroy with
  | none => state
  | some job =>
      if state.busy then state
      else { state with pendingEqDestroy := none }.handleUbaseMailbox job 0 false

/-- The events are written while the queue is usable, and fail otherwise. -/
def processEvents (state : State) : List Pending → State
  | [] => { state with mailboxEvents := [] }.maybeCompleteEqDestroy
  | pending :: rest =>
      if state.queue.usable then
        { state with
          mailboxEvents := rest
          aeqInFlight := state.aeqInFlight + 1 }.call
            (.eventWritten pending (state.queue.address state.queue.slot)
              (eventImage (state.queue.producer &&& state.queue.depth == 0) pending.sequence))
      else (state.complete pending false).processEvents rest

def processMailboxEvent : State :=
  if state.aeqInFlight ≠ 0 then state else state.processEvents state.mailboxEvents

def emitMailboxEvent (sequence : Nat) : State :=
  let pending : Pending := ⟨state.emitted.length, .ofNat sequence⟩
  let asked := { state with emitted := state.emitted ++ [pending] }
  if state.pendingEqDestroy.isSome then asked.complete pending false
  else { asked with mailboxEvents := state.mailboxEvents ++ [pending] }.processMailboxEvent

/-- What follows the write-back. -/
def runAfter : After → State
  | .mailboxEvent sequence => state.emitMailboxEvent sequence
  | _ => state

/-- An event is through. -/
def release (pending : Pending) (ok : Bool) : State :=
  ({ state with aeqInFlight := state.aeqInFlight - 1 }.complete pending ok).processMailboxEvent

/-- The host runs a callback; `context` is what it has read. -/
def answer (ok : Bool) (context : Bytes) : Callback → State
  | .contextRead job =>
      if ok && context.length == 64 then state.applyUbaseMailbox job context
      else state.rejectUbase 5
  | .recordWritten _ after =>
      if ok then { state.runAfter after with ubaseBusy := false } else state.failUbase
  | .eventWritten pending address bytes =>
      if ok then
        { state with
          queue := { state.queue with producer := (state.queue.producer + 1) % 2 ^ 32 }
          ubaseCommandSource := state.ubaseCommandSource ||| 2
          published := state.published ++ [pending]
          memory := Function.update state.memory address (some bytes) }.call
            (.interruptRaised state.queue.vector pending)
      else state.release pending false
  | .interruptRaised _ pending => state.release pending ok

end State

inductive Event where
  /-- A mailbox command is taken from the command queue. -/
  | command (job : Job) (status : Nat) (waits : Bool)
  /-- The resource that a destroy waits for is idle. -/
  | resume (status : Nat)
  /-- The host runs one of the callbacks it holds. -/
  | answer (index : Nat) (ok : Bool) (context : Bytes)

def step (state : State) : Event → Option State
  | .command job status waits =>
      if state.ubaseBusy then none
      else some ({ state with ubaseBusy := true }.handleUbaseMailbox job status waits)
  | .resume status =>
      state.deferredDestroy.map fun job =>
        { state with deferredDestroy := none }.handleUbaseMailbox job status false
  | .answer index ok context =>
      (state.outstanding[index]?).map
        ({ state with outstanding := state.outstanding.eraseIdx index }.answer ok context)

end Udma.Aeq
