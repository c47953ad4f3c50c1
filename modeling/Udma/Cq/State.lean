import Mathlib
import Udma.Abi

/-!
# State of the completion engine

The data `udma_completion.cc` works on, with the JFC and CEQ commands of
`udma_resources.cc` that create, change, query and destroy its contexts: the CQ
contexts and their publication queues, the completion events and the event
queues they go to, and the pool of completion-event slots.

Counters kept only for diagnostics are left out, and so are the asynchronous
event queue and the mailbox event that a command may ask for.

The code is re-entrant: a host call and the callback a caller passes to
`WriteCqe` may run any other entry point before they return.  As for the send
queue, `State.stack` is the call stack, `Task.external` stands for code outside
the engine that has not returned, and `State.outstanding` holds the callbacks
that host functions will run.
-/

namespace Udma.Cq

open Udma.Abi

/-- The part of `UdmaModel::Config` the engine reads. -/
structure Config where
  completionEventSlots : Nat
  pipelinedCompletionDma : Bool
  oneShotJfcNotifications : Bool
  slots_bounds : 0 < completionEventSlots ∧ completionEventSlots ≤ 4096

/-- A map of the source, keyed by a resource number. -/
abbrev Map (Value : Type) := AList fun _ : Nat => Value

/-- A JFC's `QueueContext`.  The depth is kept as the 4-bit shift of the create
command, so it is a power of two from `2 ^ 6` to `2 ^ 21`.  `generation` is a
history variable: how many JFCs had been created before this one. -/
structure Jfc where
  queueIova : Nat
  indexIova : Nat
  token : Nat
  shift : Fin 16
  moderationCount : Nat
  moderationPeriod : Nat
  generation : Nat
  producer : Nat := 0
  consumer : Nat := 0
  pendingCompletions : Nat := 0
  moderationDeadline : Nat := 0
  cqeWritePending : Bool := false
  deriving DecidableEq, Repr

def Jfc.depth (jfc : Jfc) : Nat := 1 <<< (jfc.shift.val + 6)

/-- `EventQueueContext`; its create command bounds the shift as well. -/
structure Ceq where
  iova : Nat
  shift : Fin 18
  vector : Nat
  producer : Nat := 0
  consumer : Nat := 0
  pendingConsumer : Nat := 0
  consumerPending : Bool := false
  creditFault : Bool := false
  deriving DecidableEq, Repr

def Ceq.depth (ceq : Ceq) : Nat := 1 <<< (ceq.shift.val + 6)

/-- What a caller of `WriteCqe` wants to be published. -/
structure Cqe where
  receive : Bool
  jetty : Bool
  opcode : Nat
  entryIndex : Nat
  localId : Nat
  byteCount : Nat
  userData : Nat
  immediate : Nat
  remoteId : Nat := 0
  remoteEid : Nat := 0
  tpn : Nat := 0
  status : Nat := 0
  substatus : Nat := 0
  deriving DecidableEq, Repr

/-- The closure `WriteCqe` queues.  `call` and `origin` are history variables: the
number of the `WriteCqe` call, which also names the callback the caller passed, and
the generation of the JFC at the time of the call, if there was one. -/
structure Publication where
  call : Nat
  origin : Option Nat
  cqe : Cqe
  deriving DecidableEq, Repr

/-- `JfcPublicationQueue`. -/
structure PublicationQueue where
  pending : List Publication := []
  running : Bool := false
  dispatching : Bool := false
  inFlight : Nat := 0
  deriving DecidableEq, Repr

/-- `PendingCompletionEvent`.  Every callback stored in one releases a slot;
`ticket` is a history variable that names the reservation. -/
structure CompletionEvent where
  ticket : Nat
  jfcId : Nat
  ceqId : Nat
  deriving DecidableEq, Repr

/-- The mailbox commands on JFC (`0x24` to `0x27`) and CEQ (`0x44`, `0x47`). -/
inductive Opcode where
  | createJfc
  | modifyJfc
  | queryJfc
  | destroyJfc
  | createCeq
  | destroyCeq
  deriving DecidableEq, Repr

structure Command where
  opcode : Opcode
  tag : Nat
  contextIova : Nat
  deriving DecidableEq, Repr

/-- A callback that the host holds. -/
inductive Callback where
  | consumerRead (ticket id : Nat) (publication : Publication)
  | cqeWritten (ticket id : Nat) (publication : Publication)
  | ceqeWritten (ticket ceqId vector : Nat)
  | interruptRaised (ticket : Nat)
  | contextRead (command : Command)
  | queryRead (command : Command)
  | queryWritten (command : Command)
  | descriptorWritten
  deriving DecidableEq, Repr

/-- An activation that still has code to run. -/
inductive Task where
  /-- A host function, or a callback of a `WriteCqe` caller, that has not returned. -/
  | external
  | pumpCompletionWork
  /-- The body of the loop in `PumpCompletionWork`, from its start. -/
  | pumpPass
  | pumpTimers (expired : List Nat)
  | pumpQueues (ids : List Nat)
  | processJfcPublications (id : Nat)
  /-- The loop test of `ProcessJfcPublications`, and the code behind the loop. -/
  | admitJfcPublications (id : Nat)
  | leaveJfcPublications (id : Nat)
  /-- The callback that `ProcessJfcPublications` passes to a publication. -/
  | releasePublication (id : Nat)
  /-- The callback that the caller passed to `WriteCqe`. -/
  | complete (call : Nat) (ok : Bool)
  | emitCompletionEvent (ticket id : Nat)
  | releaseCompletionEventSlot (ticket : Nat)
  | processCompletionEvent
  | dispatchCompletionEvents
  | maybeCompleteJfcDestroy
  | maybeCompleteEqDestroy
  deriving DecidableEq, Repr

/-- What an outside observer of the engine sees, in order.  The two reservations
and the release are not visible outside; they record the use of the pool. -/
inductive Observation where
  | called (id : Nat) (publication : Publication)
  | accepted (call id : Nat)
  | admitted (ticket call id : Nat)
  | timerFired (ticket id : Nat)
  | cqeDma (call id generation producer address : Nat) (bytes : Bytes)
  | completed (call : Nat) (ok : Bool)
  | notifying (ticket id : Nat)
  | enqueued (id ceqId : Nat)
  | ceqeDma (ceqId producer address : Nat) (bytes : Bytes)
  | slotReleased (ticket : Nat)
  | armed (id : Nat)
  | writeBack (command : Command) (status : Nat)
  /-- `ceqs_.at` found no context. -/
  | missingCeq (ceqId : Nat)
  deriving DecidableEq, Repr

structure State where
  jfcs : Map Jfc := ∅
  jfcCeqs : Map Nat := ∅
  armedJfcs : Map Bool := ∅
  jfcQueryContexts : Map Bytes := ∅
  jfcCqeDmaInFlight : Map Nat := ∅
  jfcPublications : Map PublicationQueue := ∅
  ceqs : Map Ceq := ∅
  completionEvents : List CompletionEvent := []
  completionEventBusy : Bool := false
  completionEventDispatching : Bool := false
  ceqWritePending : Bool := false
  activeCeqId : Nat := 0
  activeEventJfcId : Nat := 0
  completionEventSlotsInUse : Nat := 0
  completionWorkKick : Bool := false
  completionWorkDispatching : Bool := false
  lastJfcAdmitted : Option Nat := none
  now : Nat := 0
  /-- `draining_eq_command_` and `draining_eq_id_`; the only command is `0x47`. -/
  drainingCeqId : Option Nat := none
  pendingEqDestroy : Option Command := none
  drainingJfcId : Option Nat := none
  pendingJfcDestroy : Option Command := none
  ubaseBusy : Bool := false
  stack : List Task := []
  outstanding : List Callback := []
  /-- History variables: the numbers of calls, reservations and created JFCs. -/
  calls : Nat := 0
  tickets : Nat := 0
  generations : Nat := 0
  trace : List Observation := []

/-- The constructed model. -/
def State.initial : State := {}

end Udma.Cq
