import Udma.Abi

/-!
# State of the send-queue engine

The data `udma_sq.cc` works on: the constructor's configuration, the Jetty
contexts and their pipelines, the outstanding RMA requests, and the TP routes
and link states that the route checks read.

Counters kept only for diagnostics (`sq_wqes_`, `ubase_errors_`, the timing
stages) are left out, and so is the `producer` argument that the functions hand
on to `CompleteSq`, which ignores it.  Queue destruction is not part of this
engine: no destroy command is pending, `draining_queue_command_` is 0, and
`MaybeCompleteQueueDestroy` returns at once.

The code is re-entrant: a host or network call may run any callback before it
returns.  `State.stack` is therefore the call stack, one `Task` for each
activation that still has code to run, and `Task.external` stands for a host or
network function that has not returned.  `State.outstanding` holds the callbacks
handed out and not yet run.
-/

namespace Udma.Sq

open Udma.Abi

/-- The admitted part of `UdmaModel::Config`: the bounds are the constructor's. -/
structure Config where
  endpointEid : Nat
  portCount : Nat
  sqPrefetchWqebbs : Nat
  sqFetchBurstWqebbs : Nat
  sqFetchMaxOutstanding : Nat
  writePayloadReadWindow : Nat
  completionEventSlots : Nat
  maxReadOutstanding : Nat
  pipelinedCompletionDma : Bool
  prefetch_bounds : 0 < sqPrefetchWqebbs ∧ sqPrefetchWqebbs ≤ 65536
  burst_bounds : 0 < sqFetchBurstWqebbs ∧ sqFetchBurstWqebbs ≤ 65536
  fetch_bounds : 0 < sqFetchMaxOutstanding ∧ sqFetchMaxOutstanding ≤ 4096
  window_bounds : 0 < writePayloadReadWindow ∧ writePayloadReadWindow ≤ 4096
  slots_bounds : 0 < completionEventSlots ∧ completionEventSlots ≤ 4096

/-- A Jetty's `QueueContext`.  The depth is stored as the 4-bit shift the create
command carries, so it is always a power of two not above `2 ^ 15`. -/
structure QueueContext where
  queueIova : Nat
  sqShift : Fin 16
  completionQueue : Nat
  token : Nat
  payloadToken : Nat
  eidIndex : Nat
  userQueue : Nat
  isJetty : Bool
  consumer : Nat := 0
  targetProducer : Nat := 0
  busy : Bool := false
  directPending : Bool := false
  directWqe : Bytes := List.replicate 64 0
  directValid : Nat := 0
  deriving DecidableEq, Repr

def QueueContext.depth (context : QueueContext) : Nat := 1 <<< context.sqShift.val

/-- What `ReserveSq` and `CompleteSq` are told about a descriptor.  `position` is
a history variable: the value of `issue` at which the descriptor was reserved. -/
structure SqRequest where
  position : Nat
  ordered : Bool
  wqebbs : Nat
  completedIndex : Nat
  opcode : Nat
  byteCount : Nat
  immediate : Nat
  completion : Bool
  deriving DecidableEq, Repr

/-- An entry of the completions deque.  `request` is a history variable: the
descriptor for which `ReserveSq` made the entry. -/
structure SqCompletion where
  wqebbs : Nat
  index : Nat
  opcode : Nat := 0
  bytes : Nat := 0
  immediate : Nat := 0
  enabled : Bool := false
  ready : Bool := false
  status : Nat := 0
  substatus : Nat := 0
  publicationStarted : Bool := false
  publicationDone : Bool := false
  request : SqRequest
  deriving DecidableEq, Repr

/-- A non-inline WRITE whose payload is being read. -/
structure PreparedWrite where
  request : SqRequest
  raw : Bytes
  payload : Bytes := []
  ready : Bool := false
  failed : Bool := false
  deriving DecidableEq, Repr

/-- The prefetch cache: ring position to block, empty while its DMA is pending. -/
abbrev Cache := List (Nat × Bytes)

def Cache.find (cache : Cache) (position : Nat) : Option Bytes :=
  (List.find? (fun entry => entry.1 == position) cache).map (·.2)

structure SqPipeline where
  issue : Nat := 0
  nextFetch : Nat := 0
  prefetchInflight : Nat := 0
  prefetchFailed : Bool := false
  cache : Cache := []
  fetching : Bool := false
  dispatching : Bool := false
  retiring : Bool := false
  publishing : Bool := false
  publicationsInFlight : Nat := 0
  publicationFailed : Bool := false
  ordered : Bool := false
  kick : Bool := false
  completions : List SqCompletion := []
  preparedWrites : List PreparedWrite := []
  deriving DecidableEq, Repr

/-- A Jetty context with its lazily created pipeline. -/
structure Jetty where
  context : QueueContext
  pipeline : Option SqPipeline := none
  deriving DecidableEq, Repr

/-- The pipeline, as the first `ProcessSq` creates it when there is none yet. -/
def Jetty.pipe (jetty : Jetty) : SqPipeline :=
  jetty.pipeline.getD
    { issue := jetty.context.consumer, nextFetch := jetty.context.consumer }

structure TpRoute where
  id : Nat
  localEid : Nat
  remoteEid : Nat
  port : Nat
  active : Bool
  deriving DecidableEq, Repr

/-- An RMA request that awaits its replies. -/
structure PendingRma where
  requestId : Nat
  jettyId : Nat
  request : SqRequest
  localToken : Nat
  localAddress : Nat
  completedBytes : Nat := 0
  completedTassns : List (Nat × Bool) := []
  responseDma : Nat := 0
  acceptedBytes : Nat := 0
  failed : Bool := false
  responseRanges : List (Nat × Nat) := []
  deriving DecidableEq, Repr

inductive Operation where
  | send
  | sendImmediate
  | write
  | readRequest
  deriving DecidableEq, Repr

/-- A request frame handed to `NetworkInterface::Send`. -/
structure Frame where
  sequence : Nat
  sourceEid : Nat
  destinationEid : Nat
  sourcePort : Nat
  operation : Operation
  orderType : Nat
  sourceJetty : Nat
  destinationJetty : Nat
  tpn : Nat
  segment : Nat
  remoteAddress : Nat
  immediate : Nat := 0
  requestId : Nat := 0
  transferLength : Nat := 0
  bytes : Bytes := []
  deriving DecidableEq, Repr

inductive ReplyOperation where
  | writeAck
  | readResponse
  | rmaError
  deriving DecidableEq, Repr

/-- A reply frame handed to `UdmaModel::Receive`. -/
structure Reply where
  operation : ReplyOperation
  requestId : Nat
  taSsn : Nat := 0
  transactionOffset : Nat := 0
  transferLength : Nat := 0
  bytes : Bytes := []
  deriving DecidableEq, Repr

/-- The arguments of a `WriteCqe` call made for a send queue. -/
structure CqeCall where
  jfc : Nat
  jetty : Bool
  opcode : Nat
  entryIndex : Nat
  localId : Nat
  byteCount : Nat
  userData : Nat
  immediate : Nat
  status : Nat
  substatus : Nat
  deriving DecidableEq, Repr

/-- A callback that the host, the network or the completion engine holds. -/
inductive Callback where
  | prefetch (id start count : Nat)
  | continuation (id : Nat) (raw : Bytes) (remaining nextSlot contiguous : Nat)
  | writePayload (id position expected : Nat)
  | sendPayload (id : Nat) (raw : Bytes) (expected : Nat)
  | readSent (requestId : Nat)
  | payloadSent (id : Nat) (request : SqRequest) (requestId : Nat)
  | response (requestId taSsn transferLength : Nat)
  | cqe (id : Nat) (entry : SqCompletion)
  deriving DecidableEq, Repr

/-- Where an activation of `ProcessSq` continues: at its loop test, in the loop of
`FillSqCache`, or in `ProcessSqOnce` behind it.  The last two keep the target
producer that `ProcessSqOnce` read. -/
inductive Stage where
  | check
  | fill (targetProducer : Nat)
  | head (targetProducer : Nat)
  deriving DecidableEq, Repr

/-- An activation that still has code to run. -/
inductive Task where
  /-- A host, network or completion-engine function that has not returned. -/
  | external
  | processSq (id producer : Nat) (direct : Bytes)
  | resumeSq (id : Nat)
  | processSqLoop (id producer : Nat) (stage : Stage)
  | continueSqWqe (id : Nat) (raw : Bytes) (remaining nextSlot : Nat)
  | handleSqWqe (id : Nat) (raw : Bytes)
  | drainPreparedWrites (id : Nat)
  | submitSqPayload (id : Nat) (raw payload : Bytes) (reserved : Option SqRequest)
  | releaseSqFetch (id : Nat)
  | completeSq (id : Nat) (request : SqRequest) (status substatus : Nat)
  | retireSq (id : Nat)
  | retireSqLoop (id : Nat)
  | retireSqPipelinedLoop (id : Nat)
  | finishSq (id : Nat) (entry : SqCompletion) (ok : Bool)
  | finishSqPipelined (id : Nat) (entry : SqCompletion) (ok : Bool)
  deriving DecidableEq, Repr

/-- What an outside observer of the engine sees, in order. -/
inductive Observation where
  | direct (id producer : Nat) (image : Bytes)
  | executed (id position : Nat) (raw : Bytes)
  | reserved (id : Nat) (request : SqRequest)
  | sent (id position : Nat) (frame : Frame)
  | completed (id : Nat) (request : SqRequest) (status substatus : Nat)
  | submitted (id position : Nat) (call : CqeCall)
  | published (id position : Nat) (ok : Bool)
  | retired (id : Nat) (request : SqRequest)
  | dmaRead (id token address length : Nat)
  | dmaWrite (id token address length : Nat)
  deriving DecidableEq, Repr

structure State where
  jetty : Nat → Option Jetty
  pendingRma : List PendingRma := []
  nextRmaRequest : Nat := 1
  nextSequence : Nat := 1
  tpRoutes : List TpRoute := []
  nextTpId : Nat := 1
  nextTpPort : Nat := 0
  linkUp : List Bool
  stack : List Task := []
  outstanding : List Callback := []
  /-- History variable: everything observed so far. -/
  trace : List Observation := []

/-- The constructed model: every link is up, no queue exists. -/
def State.initial (config : Config) : State :=
  { jetty := fun _ => none, linkUp := List.replicate config.portCount true }

end Udma.Sq
