import Udma.Cq.Landing

/-!
# The receive queue

`ProcessReceiveQueue`, `ReceiveSend`, `ReceiveSge` and `FinishReceive` of
`udma_receive.cc`, with the Jetty and JFR commands of `udma_resources.cc` that create
and destroy the contexts under a receive.

The completion engine is the one of `Udma.Cq`: `FinishReceive` calls its `WriteCqe`,
and the callback passed there runs when that engine calls it.  The send engine only
appears through the Jettys it keeps busy.  As in the other engines, `State.stack` is
the call stack, `Task.external` stands for code that has not returned, and
`State.outstanding` holds the callbacks that the host will run.
-/

namespace Udma.Receive.Queue

open Abi (Bytes Sge load32 load64 sgeBytes)
open Cq (Cqe Map word)

structure Config where
  completion : Cq.Config
  maxJettys : Nat

/-- A JFR's `QueueContext`.  The depth and the number of elements of an entry are kept
as the shifts of the create command. -/
structure Jfr where
  queueIova : Nat
  indexIova : Nat
  producerIova : Nat
  completionQueue : Nat
  depthShift : Fin 16
  sgeShift : Fin 8
  token : Nat
  payloadToken : Nat
  consumer : Nat := 0
  deriving DecidableEq, Repr

namespace Jfr

variable (jfr : Jfr)

def depth : Nat := 1 <<< jfr.depthShift.val

def maxSge : Nat := 1 <<< jfr.sgeShift.val

def entryStride : Nat := jfr.maxSge * sgeBytes

/-- The address of the index entry at the consumer. -/
def indexAddress : Nat := (jfr.indexIova + (jfr.consumer &&& (jfr.depth - 1)) * 4) % 2 ^ 64

/-- The address of an element of a receive-queue entry. -/
def sgeAddress (rqe sge : Nat) : Nat :=
  (jfr.queueIova + rqe * jfr.entryStride + sge * sgeBytes) % 2 ^ 64

end Jfr

/-- The fields of a Jetty's `QueueContext` that a receive reads. -/
structure Jetty where
  receiveQueue : Nat
  receiveCompletionQueue : Nat
  deriving DecidableEq, Repr

inductive FrameOperation where
  | send
  | sendImmediate
  deriving DecidableEq, Repr

def FrameOperation.code : FrameOperation → Nat
  | .send => 0
  | .sendImmediate => 1

structure Frame where
  operation : FrameOperation
  sourceEid : Nat
  sourceJetty : Nat
  destinationJetty : Nat
  tpn : Nat
  immediate : Nat
  bytes : Bytes
  deriving DecidableEq, Repr

/-- A frame of `receive_frames_`.  `number` is a history variable: how many frames had
arrived before it. -/
structure Arrival where
  number : Nat
  frame : Frame
  deriving DecidableEq, Repr

/-- The mailbox commands on Jettys (`0x04`, `0x07`) and JFRs (`0x54`, `0x57`). -/
inductive Opcode where
  | createJfs
  | destroyJfs
  | createJfr
  | destroyJfr
  deriving DecidableEq, Repr

structure Command where
  opcode : Opcode
  tag : Nat
  contextIova : Nat
  deriving DecidableEq, Repr

/-- A callback that the host holds. -/
inductive Callback where
  | producerRead (arrival : Arrival) (jfrId : Nat)
  | indexRead (arrival : Arrival) (jfrId : Nat)
  | sgeRead (arrival : Arrival) (jfrId rqe sge copied : Nat)
  | payloadWritten (arrival : Arrival) (jfrId rqe sge copied chunk : Nat)
  | contextRead (command : Command)
  | descriptorWritten
  deriving DecidableEq, Repr

/-- The callback that `FinishReceive` passes to `WriteCqe`, under the number of the call. -/
structure Publishing where
  call : Nat
  jfcId : Nat
  cqe : Cqe
  arrival : Arrival
  jfrId : Nat
  rqe : Nat
  deriving DecidableEq, Repr

inductive Task where
  /-- A host function, or `WriteCqe`, that has not returned. -/
  | external
  | maybeCompleteQueueDestroy
  | processReceiveQueue
  deriving DecidableEq, Repr

/-- What an outside observer sees, in order; `installed`, `consumed`, `started` and `ended`
record what happens inside. -/
inductive Observation where
  | arrived (arrival : Arrival)
  | purged (number : Nat)
  | started (number : Nat)
  | dmaRead (number token address length : Nat)
  | dmaWrite (number source : Nat) (element : Sge) (token : Nat) (bytes : Bytes)
  | payloadWritten (number : Nat)
  | publishing (publishing : Publishing)
  | consumed (number jfrId : Nat)
  | ended (number : Nat) (ok : Bool)
  | installed (jfrId : Nat) (jfr : Jfr)
  | writeBack (command : Command) (status : Nat)
  deriving DecidableEq, Repr

structure State where
  receiveFrames : List Arrival := []
  receiveBusy : Bool := false
  activeReceiveJfr : Option Nat := none
  activeReceiveJetty : Option Nat := none
  jfrs : Map Jfr := ∅
  jetties : Map Jetty := ∅
  /-- `draining_queue_command_` and `draining_queue_id_`. -/
  drainingQueue : Option (Opcode × Nat) := none
  pendingQueueDestroy : Option Command := none
  /-- The Jettys with work of the send engine. -/
  sendBusy : List Nat := []
  ubaseBusy : Bool := false
  stack : List Task := []
  outstanding : List Callback := []
  completion : Cq.State := .initial
  awaiting : List Publishing := []
  /-- History variables: the frames that have arrived, and the CQEs that have landed. -/
  arrivals : Nat := 0
  landed : List (Nat × Cq.Publication) := []
  trace : List Observation := []

def State.initial : State := {}

namespace State

@[simps]
def push (state : State) (tasks : List Task) : State :=
  { state with stack := tasks ++ state.stack }

/-- Enter a host function with a callback. -/
@[simps]
def call (state : State) (callback : Callback) : State :=
  { state with
    outstanding := state.outstanding ++ [callback]
    stack := .external :: state.stack }

@[simps]
def emit (state : State) (observations : List Observation) : State :=
  { state with trace := state.trace ++ observations }

end State

/-! ## The receive engine -/

/-- `ReleaseReceive`. -/
def releaseReceive (state : State) : State :=
  { state with
    activeReceiveJfr := none
    activeReceiveJetty := none
    receiveBusy := false }.push [.maybeCompleteQueueDestroy, .processReceiveQueue]

/-- The end of a receive. -/
def endReceive (state : State) (arrival : Arrival) (ok : Bool) : State :=
  releaseReceive (state.emit [.ended arrival.number ok])

/-- The receive CQE of a frame. -/
def receiveCqe (frame : Frame) (rqe : Nat) : Cqe where
  receive := true
  jetty := true
  opcode := frame.operation.code
  entryIndex := rqe % 2 ^ 16
  localId := frame.destinationJetty
  byteCount := frame.bytes.length % 2 ^ 32
  userData := 0
  immediate := frame.immediate
  remoteId := frame.sourceJetty
  remoteEid := frame.sourceEid
  tpn := frame.tpn

def receiveJfc (jetty : Jetty) (jfr : Jfr) : Nat :=
  if jetty.receiveCompletionQueue ≠ 0 then jetty.receiveCompletionQueue else jfr.completionQueue

/-- Call `WriteCqe` with a callback of this engine. -/
def publish (state : State) (publishing : Publishing) : State :=
  { state with
    completion := Cq.writeCqe state.completion publishing.jfcId publishing.cqe
    awaiting := state.awaiting ++ [publishing] }.emit [.publishing publishing] |>.push [.external]

def finishReceive (state : State) (arrival : Arrival) (jfrId rqe : Nat) : State :=
  match state.jfrs.lookup jfrId, state.jetties.lookup arrival.frame.destinationJetty with
  | some jfr, some jetty =>
      publish state
        { call := state.completion.calls
          jfcId := receiveJfc jetty jfr
          cqe := receiveCqe arrival.frame rqe
          arrival := arrival
          jfrId := jfrId
          rqe := rqe }
  | _, _ => endReceive state arrival false

def receiveSge (state : State) (arrival : Arrival) (jfrId rqe sge copied : Nat) : State :=
  match state.jfrs.lookup jfrId with
  | none => endReceive state arrival false
  | some jfr =>
      if copied = arrival.frame.bytes.length then finishReceive state arrival jfrId rqe
      else if jfr.maxSge ≤ sge then endReceive state arrival false
      else (state.emit
        [.dmaRead arrival.number jfr.token (jfr.sgeAddress rqe sge) sgeBytes]).call
          (.sgeRead arrival jfrId rqe sge copied)

def receiveSend (state : State) (arrival : Arrival) : State :=
  let jettyId := arrival.frame.destinationJetty
  match state.jetties.lookup jettyId with
  | none => endReceive state arrival false
  | some jetty =>
      if state.drainingQueue = some (.destroyJfs, jettyId) then endReceive state arrival false
      else
        match state.jfrs.lookup jetty.receiveQueue with
        | none => endReceive state arrival false
        | some jfr =>
            if jfr.producerIova = 0 then endReceive state arrival false
            else if state.drainingQueue = some (.destroyJfr, jetty.receiveQueue) then
              endReceive state arrival false
            else
              ({ state with
                  activeReceiveJfr := some jetty.receiveQueue
                  activeReceiveJetty := some jettyId }.emit
                [.dmaRead arrival.number jfr.token jfr.producerIova 4]).call
                  (.producerRead arrival jetty.receiveQueue)

def processReceiveQueue (state : State) : State :=
  match state.receiveFrames with
  | [] => state
  | arrival :: rest =>
      if state.receiveBusy then state
      else receiveSend
        ({ state with
            receiveBusy := true
            receiveFrames := rest }.emit [.started arrival.number]) arrival

/-- The callback of the producer-index read. -/
def producerRead (state : State) (arrival : Arrival) (jfrId : Nat) (ok : Bool) (bytes : Bytes) :
    State :=
  match state.jfrs.lookup jfrId with
  | none => endReceive state arrival false
  | some jfr =>
      if ok && bytes.length == 4 then
        if jfr.consumer % 2 ^ 16 = load32 bytes 0 % 2 ^ 16 then endReceive state arrival false
        else (state.emit [.dmaRead arrival.number jfr.token jfr.indexAddress 4]).call
          (.indexRead arrival jfrId)
      else endReceive state arrival false

/-- The callback of the index read. -/
def indexRead (state : State) (arrival : Arrival) (jfrId : Nat) (ok : Bool) (bytes : Bytes) :
    State :=
  match state.jfrs.lookup jfrId with
  | none => endReceive state arrival false
  | some jfr =>
      if ok && bytes.length == 4 then
        if jfr.depth ≤ load32 bytes 0 then endReceive state arrival false
        else receiveSge state arrival jfrId (load32 bytes 0) 0 0
      else endReceive state arrival false

/-- The element in the bytes that were read. -/
def decodeSge (bytes : Bytes) : Sge := ⟨load32 bytes 0, load32 bytes 4, load64 bytes 8⟩

/-- How much of a frame goes to an element. -/
def chunkSize (frame : Frame) (element : Sge) (copied : Nat) : Nat :=
  min element.length ((frame.bytes.length - copied) % 2 ^ 32)

/-- The callback of the element read. -/
def sgeRead (state : State) (arrival : Arrival) (jfrId rqe sge copied : Nat) (ok : Bool)
    (bytes : Bytes) : State :=
  if ok && bytes.length == sgeBytes then
    let element := decodeSge bytes
    let chunk := chunkSize arrival.frame element copied
    if chunk = 0 ∨ element.address = 0 then endReceive state arrival false
    else
      match state.jfrs.lookup jfrId with
      | none => endReceive state arrival false
      | some jfr =>
          (state.emit [.dmaWrite arrival.number (jfr.sgeAddress rqe sge) element jfr.payloadToken
            ((arrival.frame.bytes.drop copied).take chunk)]).call
              (.payloadWritten arrival jfrId rqe sge copied chunk)
  else endReceive state arrival false

/-- The callback of the payload write. -/
def payloadWritten (state : State) (arrival : Arrival) (jfrId rqe sge copied chunk : Nat)
    (ok : Bool) : State :=
  if ok then
    receiveSge (state.emit [.payloadWritten arrival.number]) arrival jfrId rqe (sge + 1)
      ((copied + chunk) % 2 ^ 32)
  else endReceive state arrival false

/-- The entry at the consumer is used up. -/
def consume (state : State) (number jfrId : Nat) : State :=
  match state.jfrs.lookup jfrId with
  | none => state
  | some jfr =>
      { state with jfrs := state.jfrs.insert jfrId { jfr with consumer := jfr.consumer + 1 } }.emit
        [.consumed number jfrId]

/-- The callback of `WriteCqe`. -/
def cqeWritten (state : State) (publishing : Publishing) (ok : Bool) : State :=
  endReceive
    (if ok then consume state publishing.arrival.number publishing.jfrId else state)
    publishing.arrival ok

/-- The end of `Receive` for a frame that is sent to a Jetty. -/
def receive (state : State) (frame : Frame) : State :=
  let arrival : Arrival := ⟨state.arrivals, frame⟩
  processReceiveQueue
    ({ state with
        receiveFrames := state.receiveFrames ++ [arrival]
        arrivals := state.arrivals + 1 }.emit [.arrived arrival])

/-! ## Contexts -/

/-- The JFR context of a create command, if it is acceptable. -/
def decodeJfr (context : Bytes) : Option Jfr :=
  let queueIova := ((word context 2 <<< 20) ||| (word context 1 >>> 12)) <<< 12
  let indexIova := (((word context 9 &&& 0xfffff) <<< 32) ||| word context 8) <<< 12
  let producerIova :=
    (((word context 12 &&& 3) <<< 56) ||| (word context 11 <<< 24) |||
      (word context 10 >>> 8)) <<< 6
  if queueIova = 0 ∨ indexIova = 0 ∨ producerIova = 0 then none
  else some
    { queueIova := queueIova
      indexIova := indexIova
      producerIova := producerIova
      completionQueue := ((word context 10 &&& 0xff) <<< 12) ||| (word context 9 >>> 20)
      depthShift := Fin.ofNat 16 (word context 0 >>> 8)
      sgeShift := Fin.ofNat 8 (word context 0 >>> 4)
      token := ((word context 1 &&& 0x3f) <<< 14) ||| ((word context 0 >>> 18) &&& 0x3fff)
      payloadToken := (word context 3 >>> 2) &&& 0xfffff }

/-- The Jetty context of a create command, if it is acceptable. -/
def decodeJetty (context : Bytes) : Option Jetty :=
  if ((word context 2 <<< 20) ||| (word context 1 >>> 12)) <<< 12 = 0 then none
  else some
    { receiveQueue := ((word context 5 &&& 0xff) <<< 12) ||| (word context 4 >>> 20)
      receiveCompletionQueue := word context 5 >>> 12 }

/-- Start the write-back of the descriptor. -/
def finishUbaseDescriptor (state : State) (command : Command) (status : Nat) : State :=
  (state.emit [.writeBack command status]).call .descriptorWritten

/-- `ApplyUbaseMailbox`; `context` is what was read for the command. -/
def applyUbaseMailbox (state : State) (command : Command) (context : Bytes) : State :=
  match command.opcode with
  | .createJfr =>
      match decodeJfr context with
      | none => finishUbaseDescriptor state command 22
      | some jfr =>
          finishUbaseDescriptor
            ({ state with jfrs := state.jfrs.insert command.tag jfr }.emit
              [.installed command.tag jfr]) command 0
  | .createJfs =>
      match decodeJetty context with
      | none => finishUbaseDescriptor state command 22
      | some jetty =>
          finishUbaseDescriptor
            { state with jetties := state.jetties.insert command.tag jetty } command 0
  | .destroyJfs | .destroyJfr => finishUbaseDescriptor state command 0

/-- The callback of the context read. -/
def contextRead (state : State) (command : Command) (ok : Bool) (bytes : Bytes) : State :=
  if ok && bytes.length == 128 then applyUbaseMailbox state command bytes
  else finishUbaseDescriptor state command 5

/-- `ResourceQueueBusy`, for a destroy command. -/
def State.resourceQueueBusy (state : State) (opcode : Opcode) (id : Nat) : Bool :=
  if opcode = .destroyJfr then state.activeReceiveJfr == some id
  else state.sendBusy.contains id || state.activeReceiveJetty == some id

/-- A queued frame that belongs to the resource being destroyed. -/
def State.belongs (state : State) (command : Command) (arrival : Arrival) : Bool :=
  if command.opcode = .destroyJfs then arrival.frame.destinationJetty == command.tag
  else (state.jetties.lookup arrival.frame.destinationJetty).any fun jetty =>
    jetty.receiveQueue == command.tag

/-- Erase a resource, with the queued frames that belong to it. -/
def destroyQueue (state : State) (command : Command) : State :=
  let purged := state.receiveFrames.filter (state.belongs command)
  let erased : State :=
    { state with
      receiveFrames := state.receiveFrames.filter fun arrival => !state.belongs command arrival
      jetties := if command.opcode = .destroyJfs then state.jetties.erase command.tag
        else state.jetties
      jfrs := if command.opcode = .destroyJfr then state.jfrs.erase command.tag
        else state.jfrs }
  erased.emit (purged.map fun arrival => .purged arrival.number)

def handleUbaseMailbox (config : Config) (state : State) (command : Command) : State :=
  match command.opcode with
  | .destroyJfs | .destroyJfr =>
      if state.resourceQueueBusy command.opcode command.tag then
        { state with
          drainingQueue := some (command.opcode, command.tag)
          pendingQueueDestroy := some command }
      else applyUbaseMailbox (destroyQueue state command) command []
  | .createJfr =>
      if command.contextIova = 0 then finishUbaseDescriptor state command 22
      else if (state.jfrs.lookup command.tag).isSome then finishUbaseDescriptor state command 17
      else state.call (.contextRead command)
  | .createJfs =>
      if command.contextIova = 0 then finishUbaseDescriptor state command 22
      else if (state.jetties.lookup command.tag).isSome then
        finishUbaseDescriptor state command 17
      else if config.maxJettys ≤ state.jetties.entries.length then
        finishUbaseDescriptor state command 28
      else state.call (.contextRead command)

def maybeCompleteQueueDestroy (config : Config) (state : State) : State :=
  match state.pendingQueueDestroy with
  | none => state
  | some command =>
      if state.drainingQueue.any fun drained => state.resourceQueueBusy drained.1 drained.2 then
        state
      else handleUbaseMailbox config
        { state with pendingQueueDestroy := none, drainingQueue := none } command

/-! ## The step function -/

inductive Event where
  /-- The engine runs the top of its stack. -/
  | run
  /-- The callback at `index` of the outstanding ones is called. -/
  | fire (index : Nat) (ok : Bool) (bytes : Bytes)
  | receive (frame : Frame)
  | mailbox (command : Command)
  /-- The send engine takes up or finishes work, and may look for a destroy that waits. -/
  | sendEngine (busy : List Nat)
  | maybeCompleteQueueDestroy
  /-- A step of the completion engine. -/
  | completion (event : Cq.Event)
  deriving DecidableEq, Repr

/-- Nothing of the engine is running, or it waits for code outside to return. -/
def State.atBoundary (state : State) : Bool :=
  match state.stack with
  | [] => true
  | .external :: _ => true
  | _ => false

def runCallback (state : State) (ok : Bool) (bytes : Bytes) : Callback → State
  | .producerRead arrival jfrId => producerRead state arrival jfrId ok bytes
  | .indexRead arrival jfrId => indexRead state arrival jfrId ok bytes
  | .sgeRead arrival jfrId rqe sge copied => sgeRead state arrival jfrId rqe sge copied ok bytes
  | .payloadWritten arrival jfrId rqe sge copied chunk =>
      payloadWritten state arrival jfrId rqe sge copied chunk ok
  | .contextRead command => contextRead state command ok bytes
  | .descriptorWritten => { state with ubaseBusy := false }

def runTask (config : Config) (state : State) : Task → State
  | .external => state
  | .maybeCompleteQueueDestroy => maybeCompleteQueueDestroy config state
  | .processReceiveQueue => processReceiveQueue state

/-- The callback that a step of the completion engine calls. -/
def finishedCall (completion : Cq.State) : Cq.Event → Option (Nat × Bool)
  | .run =>
      match completion.stack with
      | .complete call ok :: _ => some (call, ok)
      | _ => none
  | _ => none

/-- A step of the completion engine, with the callback of this engine that it calls. -/
def completionStep (config : Config) (state : State) (event : Cq.Event) : Option State :=
  (Cq.step config.completion state.completion event).map fun completion =>
    let moved := { state with
      completion := completion
      landed := state.landed ++ (state.completion.landing event).toList }
    match finishedCall state.completion event with
    | none => moved
    | some (call, ok) =>
        match state.awaiting.find? fun publishing => publishing.call == call with
        | none => moved
        | some publishing =>
            cqeWritten { moved with awaiting := state.awaiting.erase publishing } publishing ok

/-- What an outside party does at the boundary. -/
def environment (config : Config) (state : State) : Event → Option State
  | .run => none
  | .fire index ok bytes =>
      (state.outstanding[index]?).map fun callback =>
        runCallback { state with outstanding := state.outstanding.eraseIdx index } ok bytes callback
  | .receive frame => some (receive state frame)
  | .mailbox command =>
      if state.ubaseBusy then none
      else some (handleUbaseMailbox config { state with ubaseBusy := true } command)
  | .sendEngine busy => some { state with sendBusy := busy }
  | .maybeCompleteQueueDestroy => some (state.push [.maybeCompleteQueueDestroy])
  | .completion event => completionStep config state event

/-- Each engine runs while the other one waits. -/
def step (config : Config) (state : State) (event : Event) : Option State :=
  match event with
  | .run =>
      match state.stack with
      | [] => none
      | task :: rest =>
          if state.completion.atBoundary then
            some (runTask config { state with stack := rest } task)
          else none
  | .completion event => if state.atBoundary then completionStep config state event else none
  | event =>
      if state.atBoundary && state.completion.atBoundary then environment config state event
      else none

end Udma.Receive.Queue
