import Mathlib
import Udma.Collections.Withdraw
import Udma.Native.Segments
import Udma.Transition.Run
import Udma.Wire.Ingress

/-!
# Executions at the target

`OnTargetExecute` hands a READ or WRITE segment to the device of the target and
remembers it under its source, request number and 16-bit sequence number.  The
device echoes these in its reply, and `CompleteTargetExecution` compares the reply
with what was remembered and with the map of segments of the source's WQE.

The transport has the WQEs and carries their segments: it may hold them back and reorder
them, it executes each at most once, and what it carries of a segment is what was sent.  The
fabric knows a WQE by a 32-bit task id, which wraps around.
-/

namespace Udma.Native

open Udma.Collections
open Udma.Transition
open Udma.Wire

/-! ## The target device -/

/-- The fields both services copy into a reply. -/
def replyTo (frame : Frame) (sequence : UInt64) (operation : Operation) (payload : Bytes) :
    Frame where
  sequence := sequence
  sourceEid := frame.destinationEid
  destinationEid := frame.sourceEid
  sourcePort := frame.destinationPort
  destinationPort := frame.sourcePort
  operation := operation
  orderType := 0
  sourceJetty := frame.destinationJetty
  destinationJetty := frame.sourceJetty
  tpn := frame.tpn
  segment := 0
  remoteAddress := 0
  immediate := 0
  requestId := frame.requestId
  taSsn := frame.taSsn
  transactionOffset := frame.transactionOffset
  transferLength := frame.transferLength
  bytes := payload

/-- The range check of both services. -/
def placed (frame : Frame) : Bool :=
  frame.remoteAddress != 0 && frame.transferLength != 0 &&
    decide (frame.transferLength.toNat - 1 ≤ 2 ^ 64 - 1 - frame.remoteAddress.toNat)

/-- `ReceiveWrite`, when its access has ended with `ok`. -/
def receiveWrite (frame : Frame) (sequence : UInt64) (ok : Bool) : Option Frame :=
  if placed frame && frame.bytes.length == frame.transferLength.toNat then
    some (replyTo frame sequence (if ok then .writeAck else .rmaError) [])
  else none

/-- `ReceiveReadRequest`, when its access has ended with `ok` and `payload`. -/
def receiveReadRequest (frame : Frame) (sequence : UInt64) (ok : Bool) (payload : Bytes) :
    Option Frame :=
  if placed frame then
    if ok && payload.length == frame.transferLength.toNat then
      some (replyTo frame sequence .readResponse payload)
    else some (replyTo frame sequence .rmaError [])
  else none

/-- The reply of the model to a one-sided request, if it serves the request. -/
def targetReply (frame : Frame) (sequence : UInt64) (ok : Bool) (payload : Bytes) :
    Option Frame :=
  match frame.operation with
  | .write => receiveWrite frame sequence ok
  | .readRequest => receiveReadRequest frame sequence ok payload
  | _ => none

/-! ## The fabric -/

/-- `ExternalRequestContext`, which `SubmitNativeWqe` writes into the native WQE. -/
structure RequestContext where
  taskId : UInt32
  sourceEid : UInt32
  destinationEid : UInt32
  sequence : UInt64
  original : Header
  deriving DecidableEq

/-- A segment as the transport carries it. -/
structure Segment where
  source : Nat
  destination : Nat
  context : RequestContext
  taSsn : UInt32
  offset : Nat
  bytes : Nat
  sourcePort : UInt16
  destinationPort : UInt16
  payload : Bytes
  deriving DecidableEq

/-- An entry of the map of segments. -/
structure FiledSegment where
  offset : Nat
  bytes : Nat
  readPayload : Bytes := []
  deriving DecidableEq

/-- `NativeTask`. -/
structure Task where
  source : Nat
  destination : Nat
  context : RequestContext
  nextOffset : Nat := 0
  segments : List (UInt16 × FiledSegment) := []
  deriving DecidableEq

/-- A WQE that the transport works on, with the bytes it has cut into segments. -/
structure Wqe where
  source : Nat
  destination : Nat
  context : RequestContext
  sentBytes : Nat := 0
  deriving DecidableEq

inductive Outcome where
  | completed
  | failed
  deriving DecidableEq

/-- `TargetExecutionKey`. -/
abbrev ExecutionKey := Nat × UInt64 × UInt16

/-- `PendingTargetExecution`; the completion is named by its segment. -/
structure PendingExecution where
  completion : Segment
  taskId : UInt32
  taSsn : UInt16
  target : Nat
  sourceEid : UInt32
  targetEid : UInt32
  request : Header
  deriving DecidableEq

structure ExecutionState where
  /-- The WQEs of the transport, in the order of their submission. -/
  wqes : Nat → Option Wqe := fun _ => none
  submitted : Nat := 0
  /-- `native_tasks_` and `next_native_task_id_`. -/
  tasks : UInt32 → Option Task := fun _ => none
  nextTask : UInt32 := 1
  pending : ExecutionKey → Option PendingExecution := fun _ => none
  /-- Sent and not yet executed. -/
  transit : List Segment := []
  /-- Handed to a device that has not answered. -/
  delivered : List Segment := []
  /-- History: which WQE a source used a request number for. -/
  owner : Nat × UInt64 → Option Nat := fun _ => none
  /-- History: the completions called. -/
  outcomes : List (Segment × Outcome) := []

def isRead (header : Header) : Bool := Operation.ofCode header.operation == .readRequest

def orderMask : UInt16 := 0x300

/-- `SubmitNativeWqe` for a READ or WRITE.  `native_tasks_.emplace` leaves a task that has the id
already as it is. -/
def submitNativeWqe (state : ExecutionState) (source destination : Nat) (sourceEid destinationEid :
    UInt32) (sequence : UInt64) (wire : Header) : ExecutionState :=
  let context : RequestContext := ⟨state.nextTask, sourceEid, destinationEid, sequence, wire⟩
  { state with
    wqes := Function.update state.wqes state.submitted (some
      { source := source, destination := destination, context := context })
    submitted := state.submitted + 1
    tasks := if (state.tasks state.nextTask).isSome then state.tasks
      else Function.update state.tasks state.nextTask (some
        { source := source, destination := destination, context := context })
    nextTask := state.nextTask + 1
    owner := Function.update state.owner (source, wire.requestId) (some state.submitted) }

/-- The size of the next segment: a READ is cut by the MTU, a WRITE by what is carried. -/
def Wqe.segmentBytes (wqe : Wqe) (carrierBytes : Nat) : Nat :=
  if isRead wqe.context.original then
    min mtuBytes (wqe.context.original.transferLength.toNat - wqe.sentBytes)
  else carrierBytes

def fileSegment (segments : List (UInt16 × FiledSegment)) (key : UInt16) (segment : FiledSegment) :
    List (UInt16 × FiledSegment) :=
  if segments.any (fun entry => entry.1 == key) then segments else segments ++ [(key, segment)]

def findSegment (segments : List (UInt16 × FiledSegment)) (key : UInt16) : Option FiledSegment :=
  (segments.find? fun entry => entry.1 == key).map Prod.snd

/-- `OnNativeSegmentSent`: the size of the segment and the task that has filed it. -/
def onNativeSegmentSent (task : Task) (taSsn : UInt32) (carrierBytes : Nat) :
    Option (Nat × Task) :=
  let length := task.context.original.transferLength.toNat
  if length ≤ task.nextOffset then none
  else
    let remaining := length - task.nextOffset
    let logicalBytes :=
      if isRead task.context.original then min mtuBytes remaining else carrierBytes
    if logicalBytes = 0 ∨ remaining < logicalBytes then none
    else
      some (logicalBytes, { task with
        segments := fileSegment task.segments taSsn.toUInt16 ⟨task.nextOffset, logicalBytes, []⟩
        nextOffset := task.nextOffset + logicalBytes })

/-- The header of the request that the target receives. -/
def requestHeader (segment : Segment) : Header :=
  { segment.context.original with
    magic := wireMagic
    version := wireVersion
    flags := ctpSegmentFlag ||| lastFragmentFlag ||| (segment.context.original.flags &&& orderMask)
    remoteAddress := segment.context.original.remoteAddress + .ofNat segment.offset
    taSsn := segment.taSsn.toUInt16.toUInt32
    transferLength := .ofNat segment.bytes
    payloadOffset := .ofNat segment.offset
    payloadLength := .ofNat segment.payload.length }

/-- The frame that carries it. -/
def requestMessage (segment : Segment) : Message where
  sequence := segment.context.sequence
  sourceEid := segment.context.sourceEid
  destinationEid := segment.context.destinationEid
  sourcePort := segment.sourcePort
  destinationPort := segment.destinationPort
  bytes := (requestHeader segment).encode ++ segment.payload

def executionKey (segment : Segment) : ExecutionKey :=
  (segment.source, segment.context.original.requestId, segment.taSsn.toUInt16)

/-- What `OnTargetExecute` remembers. -/
def expectation (segment : Segment) : PendingExecution where
  completion := segment
  taskId := segment.context.taskId
  taSsn := segment.taSsn.toUInt16
  target := segment.destination
  sourceEid := segment.context.sourceEid
  targetEid := segment.context.destinationEid
  request := requestHeader segment

/-- `OnTargetExecute` for a READ or WRITE; an exception is no result. -/
def onTargetExecute (endpoints : List UInt32) (state : ExecutionState) (segment : Segment) :
    Option ExecutionState :=
  let length := segment.context.original.transferLength.toNat
  if endpoints[segment.source]? ≠ some segment.context.sourceEid ∨
      endpoints[segment.destination]? ≠ some segment.context.destinationEid then none
  else if length < segment.offset ∨ segment.bytes = 0 ∨ length - segment.offset < segment.bytes ∨
      2 ^ 64 - 1 - segment.offset < segment.context.original.remoteAddress.toNat then none
  else if (state.pending (executionKey segment)).isSome then none
  else
    some { state with
      delivered := state.delivered ++ [segment]
      pending := Function.update state.pending (executionKey segment)
        (some (expectation segment)) }

/-- Keep the payload of a READ with its segment. -/
def storePayload (segments : List (UInt16 × FiledSegment)) (key : UInt16) (payload : Bytes) :
    List (UInt16 × FiledSegment) :=
  segments.map fun entry =>
    if entry.1 = key then (entry.1, { entry.2 with readPayload := payload }) else entry

/-- Call the completion and forget the execution. -/
def finishExecution (state : ExecutionState) (key : ExecutionKey) (expected : PendingExecution)
    (outcome : Outcome) : ExecutionState :=
  { state with
    pending := Function.update state.pending key none
    outcomes := state.outcomes ++ [(expected.completion, outcome)] }

/-- `CompleteTargetExecution`; an exception is no result. -/
def completeTargetExecution (endpoints : List UInt32) (state : ExecutionState) (target : Nat)
    (frame : Message) (wire : Header) (payload : Bytes) : Option ExecutionState :=
  let operation := Operation.ofCode wire.operation
  if !operation.targetCompletion ∨ 4096 < wire.payloadLength.toNat ∨ 65535 < wire.taSsn.toNat ∨
      wire.payloadLength.toNat ≠ payload.length ∨
      endpoints[target]? = some frame.destinationEid then none
  else
    match endpoints.findIdx? (· == frame.destinationEid) with
    | none => none
    | some source =>
        let key : ExecutionKey := (source, wire.requestId, wire.taSsn.toUInt16)
        match state.pending key with
        | none => none
        | some expected =>
            let read := isRead expected.request
            let targetError := operation == .rmaError
            if target ≠ expected.target ∨ frame.sourceEid ≠ expected.targetEid ∨
                frame.destinationEid ≠ expected.sourceEid ∨
                (¬ targetError ∧ operation ≠ if read then .readResponse else .writeAck) ∨
                wire.sourceJetty ≠ expected.request.destinationJetty ∨
                wire.destinationJetty ≠ expected.request.sourceJetty ∨
                wire.tpn ≠ expected.request.tpn ∨
                wire.transferLength ≠ expected.request.transferLength ∨
                wire.payloadOffset ≠ expected.request.payloadOffset ∨
                payload.length ≠
                  (if read ∧ ¬ targetError then expected.request.transferLength.toNat else 0) then
              none
            else
              let outcome := if targetError then Outcome.failed else .completed
              match state.tasks expected.taskId with
              | none => some (finishExecution state key expected outcome)
              | some task =>
                  match findSegment task.segments expected.taSsn with
                  | none => none
                  | some segment =>
                      if segment.bytes ≠ expected.request.transferLength.toNat ∨
                          segment.offset ≠ expected.request.payloadOffset.toNat then none
                      else
                        let stored :=
                          if read ∧ ¬ targetError then
                            { state with
                              tasks := Function.update state.tasks expected.taskId (some
                                { task with
                                  segments := storePayload task.segments expected.taSsn
                                    payload }) }
                          else state
                        some (finishExecution stored key expected outcome)

/-- The reply, as it comes out of the ring of the target. -/
def answer (endpoints : List UInt32) (state : ExecutionState) (target : Nat) (reply : Frame) :
    Option ExecutionState :=
  let message := wireMessage reply (reply.fragment .network 0)
  match Header.decode message.bytes with
  | none => none
  | some wire =>
      completeTargetExecution endpoints state target message wire (message.bytes.drop headerBytes)

/-! ## The machine -/

/-- A segment is sent and a WQE terminated by the place of the WQE in the transport. -/
inductive ExecutionEvent where
  | submit (source destination : Nat) (sequence : UInt64) (wire : Header)
  | sent (number : Nat) (taSsn : UInt32) (carrierBytes : Nat) (sourcePort destinationPort : UInt16)
      (payload : Bytes)
  | execute (index : Nat)
  | answer (index : Nat) (sequence : UInt64) (ok : Bool) (payload : Bytes)
  | terminate (number : Nat)

/-- The request as the target's device sees it. -/
def requestFrame (segment : Segment) : Frame :=
  (requestMessage segment).frame (requestHeader segment)

/-- Request numbers are unique for each source, a WRITE segment carries its bytes, and the
segments of a WQE that are with a device have distinct 16-bit numbers. -/
def executionStep (endpoints : List UInt32) (state : ExecutionState) :
    ExecutionEvent → Option ExecutionState
  | .submit source destination sequence wire =>
      match endpoints[source]?, endpoints[destination]? with
      | some sourceEid, some destinationEid =>
          if source = destination ∨
              (Operation.ofCode wire.operation ≠ .write ∧
                Operation.ofCode wire.operation ≠ .readRequest) ∨
              (state.owner (source, wire.requestId)).isSome then none
          else
            some (submitNativeWqe state source destination sourceEid destinationEid sequence wire)
      | _, _ => none
  | .sent number taSsn carrierBytes sourcePort destinationPort payload =>
      match state.wqes number with
      | none => none
      | some wqe =>
          match state.tasks wqe.context.taskId with
          | none => none
          | some task =>
              match onNativeSegmentSent task taSsn carrierBytes with
              | none => none
              | some (_, next) =>
                  let bytes := wqe.segmentBytes carrierBytes
                  if task.source ≠ wqe.source ∨ bytes = 0 ∨
                      wqe.context.original.transferLength.toNat - wqe.sentBytes < bytes ∨
                      payload.length ≠ (if isRead wqe.context.original then 0 else bytes) then none
                  else
                    some { state with
                      wqes := Function.update state.wqes number
                        (some { wqe with sentBytes := wqe.sentBytes + bytes })
                      tasks := Function.update state.tasks wqe.context.taskId (some next)
                      transit := state.transit ++ [
                        { source := wqe.source
                          destination := wqe.destination
                          context := wqe.context
                          taSsn := taSsn
                          offset := wqe.sentBytes
                          bytes := bytes
                          sourcePort := sourcePort
                          destinationPort := destinationPort
                          payload := payload }] }
  | .execute index =>
      match state.transit[index]? with
      | none => none
      | some segment =>
          if state.delivered.any (fun other =>
              other.context == segment.context &&
                other.taSsn.toUInt16 == segment.taSsn.toUInt16) then none
          else
            onTargetExecute endpoints { state with transit := state.transit.eraseIdx index } segment
  | .answer index sequence ok payload =>
      match state.delivered[index]? with
      | none => none
      | some segment =>
          match targetReply (requestFrame segment) sequence ok payload with
          | none => none
          | some reply =>
              answer endpoints { state with delivered := state.delivered.eraseIdx index }
                segment.destination reply
  | .terminate number =>
      match state.wqes number with
      | none => none
      | some wqe =>
          if (state.tasks wqe.context.taskId).isSome then
            some { state with
              wqes := Function.update state.wqes number none
              tasks := Function.update state.tasks wqe.context.taskId none }
          else none

/-! ## One reply -/

/-- What holds of a segment wherever it is. -/
structure Segment.Sound (endpoints : List UInt32) (segment : Segment) : Prop where
  sourceEid : endpoints[segment.source]? = some segment.context.sourceEid
  destinationEid : endpoints[segment.destination]? = some segment.context.destinationEid
  different : segment.source ≠ segment.destination
  operation : Operation.ofCode segment.context.original.operation = .write ∨
    Operation.ofCode segment.context.original.operation = .readRequest
  inside : segment.offset + segment.bytes ≤ segment.context.original.transferLength.toNat
  mtu : isRead segment.context.original = true → segment.bytes ≤ 4096

/-- The WQE, if it is still there, has filed the segment. -/
def Segment.Filed (state : ExecutionState) (segment : Segment) : Prop :=
  ∀ task, state.tasks segment.context.taskId = some task →
    ∃ filed, findSegment task.segments segment.taSsn.toUInt16 = some filed ∧
      filed.offset = segment.offset ∧ filed.bytes = segment.bytes

/-- The reply completed this segment and nothing else. -/
structure Matches (state next : ExecutionState) (segment : Segment) (reply : Frame) : Prop where
  pending : next.pending = Function.update state.pending (executionKey segment) none
  outcomes : next.outcomes = state.outcomes ++
    [(segment, if reply.operation = .rmaError then .failed else .completed)]
  others : ∀ taskId, taskId ≠ segment.context.taskId → next.tasks taskId = state.tasks taskId
  terminated : state.tasks segment.context.taskId = none →
    next.tasks segment.context.taskId = none
  own : ∀ task, state.tasks segment.context.taskId = some task →
    next.tasks segment.context.taskId = some
      (if reply.operation = .readResponse then
        { task with
          segments := storePayload task.segments segment.taSsn.toUInt16 reply.bytes }
      else task)

/-- The reply of a target names the segment in every field. -/
structure Echoes (segment : Segment) (reply : Frame) : Prop where
  completion : reply.operation.targetCompletion = true
  requestId : reply.requestId = segment.context.original.requestId
  taSsn : reply.taSsn = segment.taSsn.toUInt16.toUInt32
  sourceEid : reply.sourceEid = segment.context.destinationEid
  destinationEid : reply.destinationEid = segment.context.sourceEid
  sourceJetty : reply.sourceJetty = segment.context.original.destinationJetty
  destinationJetty : reply.destinationJetty = segment.context.original.sourceJetty
  tpn : reply.tpn = segment.context.original.tpn
  transferLength : reply.transferLength = .ofNat segment.bytes
  transactionOffset : reply.transactionOffset = .ofNat segment.offset
  kind : reply.operation = .rmaError ∨
    reply.operation = if isRead segment.context.original then .readResponse else .writeAck
  size : reply.bytes.length =
    if reply.operation = .readResponse then (UInt32.ofNat segment.bytes).toNat else 0

theorem echoes_of_targetReply {endpoints : List UInt32} {segment : Segment}
    (sound : segment.Sound endpoints) {sequence : UInt64} {ok : Bool} {payload : Bytes}
    {reply : Frame}
    (replied : targetReply (requestFrame segment) sequence ok payload = some reply) :
    Echoes segment reply := by
  have kind : (requestFrame segment).operation =
      Operation.ofCode segment.context.original.operation := rfl
  unfold targetReply at replied
  rw [kind] at replied
  rcases sound.operation with write | read
  · have notRead : isRead segment.context.original = false := by simp [isRead, write]
    simp only [write, receiveWrite] at replied
    split at replied
    next =>
      obtain rfl := Option.some.inj replied
      cases ok with
      | true =>
          exact ⟨rfl, rfl, rfl, rfl, rfl, rfl, rfl, rfl, rfl, rfl,
            .inr (by simp [notRead, replyTo]), by simp [replyTo]⟩
      | false =>
          exact ⟨rfl, rfl, rfl, rfl, rfl, rfl, rfl, rfl, rfl, rfl, .inl rfl, by simp [replyTo]⟩
    next => simp at replied
  · have isRead : isRead segment.context.original = true := by simp [isRead, read]
    simp only [read, receiveReadRequest] at replied
    split at replied
    next =>
      split at replied
      next served =>
        obtain rfl := Option.some.inj replied
        simp only [Bool.and_eq_true, beq_iff_eq] at served
        exact ⟨rfl, rfl, rfl, rfl, rfl, rfl, rfl, rfl, rfl, rfl, .inr (by simp [isRead, replyTo]),
          served.2⟩
      next =>
        obtain rfl := Option.some.inj replied
        exact ⟨rfl, rfl, rfl, rfl, rfl, rfl, rfl, rfl, rfl, rfl, .inl rfl, by simp [replyTo]⟩
    next => simp at replied

theorem ofCode_completion {operation : Operation} (known : operation.targetCompletion = true) :
    Operation.ofCode operation.code = operation := by
  cases operation <;> first | rfl | simp [Operation.targetCompletion] at known

/-- The header and payload of a reply, as they come out of the ring. -/
theorem reply_unpacked {reply : Frame} (completion : reply.operation.targetCompletion = true) :
    Header.decode (reply.fragment .network 0) = some (reply.header .network 0) ∧
      (reply.fragment .network 0).drop headerBytes = reply.bytes ∧
      (reply.header .network 0).payloadLength = .ofNat reply.bytes.length := by
  have carried : reply.payload = reply.bytes := by
    unfold Frame.payload
    rw [if_neg]
    intro read
    simp [read, Operation.targetCompletion] at completion
  have chunk : reply.chunk .network 0 = reply.bytes.length := by
    simp [Frame.chunk, completion, carried]
  refine ⟨Header.decode_encode _ _, ?_, ?_⟩
  · have behind : (reply.fragment .network 0).drop headerBytes =
        (reply.payload.drop 0).take (reply.chunk .network 0) :=
      List.drop_left' (Header.encode_length _)
    rw [behind, carried, chunk]
    simp
  · show UInt32.ofNat (reply.chunk .network 0) = _
    rw [chunk]

theorem findIdx_of_nodup {endpoints : List UInt32} (distinct : endpoints.Nodup) {index : Nat}
    {eid : UInt32} (known : endpoints[index]? = some eid) :
    endpoints.findIdx? (· == eid) = some index := by
  obtain ⟨inside, same⟩ := List.getElem?_eq_some_iff.mp known
  rw [List.findIdx?_eq_some_iff_getElem]
  refine ⟨inside, by simp [same], ?_⟩
  intro earlier before
  have apart := List.pairwise_iff_getElem.mp distinct earlier index (by omega) inside before
  rw [same] at apart
  simpa using apart

/-- The state after the payload of a READ has been kept. -/
def kept (state : ExecutionState) (segment : Segment) (task : Task) (reply : Frame) :
    ExecutionState :=
  if reply.operation = .readResponse then
    { state with
      tasks := Function.update state.tasks segment.context.taskId (some
        { task with
          segments := storePayload task.segments segment.taSsn.toUInt16 reply.bytes }) }
  else state

def outcomeOf (reply : Frame) : Outcome :=
  if reply.operation = .rmaError then .failed else .completed

/-- What the segment counts in fits the fields of the header. -/
theorem Segment.Sound.widths {endpoints : List UInt32} {segment : Segment}
    (sound : segment.Sound endpoints) :
    (UInt32.ofNat segment.bytes).toNat = segment.bytes ∧
      (UInt32.ofNat segment.offset).toNat = segment.offset := by
  have width := segment.context.original.transferLength.toNat_lt
  have inside := sound.inside
  constructor
  · apply Frame.toNat_ofNat_of_small
    omega
  · apply Frame.toNat_ofNat_of_small
    omega

namespace Echoes

variable {endpoints : List UInt32} {segment : Segment} {reply : Frame}

theorem header_taSsn (echoes : Echoes segment reply) :
    (reply.header .network 0).taSsn = segment.taSsn.toUInt16.toUInt32 := by
  simp [Frame.header, echoes.completion, echoes.taSsn]

theorem header_payloadOffset (echoes : Echoes segment reply) :
    (reply.header .network 0).payloadOffset = .ofNat segment.offset := by
  simp [Frame.header, echoes.completion, echoes.transactionOffset]

theorem header_transferLength (echoes : Echoes segment reply) :
    (reply.header .network 0).transferLength = .ofNat segment.bytes := by
  have notRequest : reply.operation.request = false := by
    have completion := echoes.completion
    cases kind : reply.operation <;> simp_all [Operation.request, Operation.targetCompletion]
  simp [Frame.header, notRequest, echoes.transferLength]

theorem readResponse_iff (echoes : Echoes segment reply) :
    reply.operation = .readResponse ↔
      isRead segment.context.original = true ∧ ¬ (reply.operation == .rmaError) = true := by
  rcases echoes.kind with error | served
  · simp [error]
  · cases read : isRead segment.context.original with
    | true => simp [served, read]
    | false => simp [served, read]

theorem small (echoes : Echoes segment reply) (sound : segment.Sound endpoints) :
    reply.bytes.length ≤ 4096 := by
  have bytes := sound.widths.1
  rw [echoes.size]
  split
  next response =>
    have mtu := sound.mtu (echoes.readResponse_iff.mp response).1
    omega
  next => omega

theorem header_payloadLength (echoes : Echoes segment reply) (sound : segment.Sound endpoints) :
    (reply.header .network 0).payloadLength.toNat = reply.bytes.length := by
  obtain ⟨_, _, length⟩ := reply_unpacked echoes.completion
  have small := echoes.small sound
  rw [length]
  apply Frame.toNat_ofNat_of_small
  omega

/-- The first checks of `CompleteTargetExecution`. -/
theorem passes (echoes : Echoes segment reply) (distinct : endpoints.Nodup)
    (sound : segment.Sound endpoints) :
    ¬ (!reply.operation.targetCompletion ∨
      4096 < (reply.header .network 0).payloadLength.toNat ∨
      65535 < (reply.header .network 0).taSsn.toNat ∨
      (reply.header .network 0).payloadLength.toNat ≠ reply.bytes.length ∨
      endpoints[segment.destination]? = some reply.destinationEid) := by
  have elsewhere : endpoints[segment.destination]? ≠ some reply.destinationEid := by
    rw [echoes.destinationEid]
    intro same
    have there := findIdx_of_nodup distinct same
    rw [findIdx_of_nodup distinct sound.sourceEid] at there
    exact sound.different (Option.some.inj there)
  have small := echoes.small sound
  have narrow := segment.taSsn.toUInt16.toNat_lt
  rw [echoes.header_payloadLength sound, echoes.header_taSsn, UInt16.toNat_toUInt32]
  simp only [echoes.completion, elsewhere]
  simp
  omega

/-- The reply agrees with what `OnTargetExecute` has remembered. -/
theorem agrees (echoes : Echoes segment reply) :
    ¬ (segment.destination ≠ (expectation segment).target ∨
      reply.sourceEid ≠ (expectation segment).targetEid ∨
      reply.destinationEid ≠ (expectation segment).sourceEid ∨
      (¬ (reply.operation == .rmaError) = true ∧
        reply.operation ≠ if isRead (expectation segment).request then .readResponse
          else .writeAck) ∨
      (reply.header .network 0).sourceJetty ≠ (expectation segment).request.destinationJetty ∨
      (reply.header .network 0).destinationJetty ≠ (expectation segment).request.sourceJetty ∨
      (reply.header .network 0).tpn ≠ (expectation segment).request.tpn ∨
      (reply.header .network 0).transferLength ≠
        (expectation segment).request.transferLength ∨
      (reply.header .network 0).payloadOffset ≠ (expectation segment).request.payloadOffset ∨
      reply.bytes.length ≠
        (if isRead (expectation segment).request ∧ ¬ (reply.operation == .rmaError) = true then
          (expectation segment).request.transferLength.toNat else 0)) := by
  have size : reply.bytes.length =
      (if isRead segment.context.original ∧ ¬ (reply.operation == .rmaError) = true then
        (UInt32.ofNat segment.bytes).toNat else 0) := by
    rw [echoes.size]
    congr 1
    rw [eq_iff_iff]
    exact echoes.readResponse_iff
  rintro (wrong | wrong | wrong | wrong | wrong | wrong | wrong | wrong | wrong | wrong)
  · exact wrong rfl
  · exact wrong echoes.sourceEid
  · exact wrong echoes.destinationEid
  · rcases echoes.kind with error | served
    · exact wrong.1 (by simp [error])
    · exact wrong.2 served
  · exact wrong echoes.sourceJetty
  · exact wrong echoes.destinationJetty
  · exact wrong echoes.tpn
  · exact wrong echoes.header_transferLength
  · exact wrong echoes.header_payloadOffset
  · exact wrong size

end Echoes

/-- A reply passes every check up to the one against the map of segments. -/
theorem answer_eq {endpoints : List UInt32} (distinct : endpoints.Nodup)
    {state : ExecutionState} {segment : Segment} {reply : Frame}
    (sound : segment.Sound endpoints)
    (expected : state.pending (executionKey segment) = some (expectation segment))
    (echoes : Echoes segment reply) :
    answer endpoints state segment.destination reply =
      match state.tasks segment.context.taskId with
      | none =>
          some (finishExecution state (executionKey segment) (expectation segment)
            (outcomeOf reply))
      | some task =>
          match findSegment task.segments segment.taSsn.toUInt16 with
          | none => none
          | some entry =>
              if entry.bytes ≠ segment.bytes ∨ entry.offset ≠ segment.offset then none
              else
                some (finishExecution (kept state segment task reply) (executionKey segment)
                  (expectation segment) (outcomeOf reply)) := by
  obtain ⟨decoded, payload, _⟩ := reply_unpacked echoes.completion
  have operation : Operation.ofCode (reply.header .network 0).operation = reply.operation :=
    ofCode_completion echoes.completion
  have valid := echoes.passes distinct sound
  have matching := echoes.agrees
  have key : ((segment.source, (reply.header .network 0).requestId,
      (reply.header .network 0).taSsn.toUInt16) : ExecutionKey) = executionKey segment := by
    have number : (reply.header .network 0).requestId =
        segment.context.original.requestId := echoes.requestId
    rw [echoes.header_taSsn, number, UInt16.toUInt16_toUInt32]
    rfl
  have outcome : (if (reply.operation == .rmaError) = true then Outcome.failed else .completed) =
      outcomeOf reply := by simp [outcomeOf]
  have message : (wireMessage reply (reply.fragment .network 0)).bytes =
      reply.fragment .network 0 := rfl
  have destination : (wireMessage reply (reply.fragment .network 0)).destinationEid =
      reply.destinationEid := rfl
  have sender : (wireMessage reply (reply.fragment .network 0)).sourceEid =
      reply.sourceEid := rfl
  have route : endpoints.findIdx? (fun eid => eid == reply.destinationEid) =
      some segment.source := by
    rw [echoes.destinationEid]
    exact findIdx_of_nodup distinct sound.sourceEid
  have size : (expectation segment).request.transferLength.toNat = segment.bytes :=
    sound.widths.1
  have start : (expectation segment).request.payloadOffset.toNat = segment.offset :=
    sound.widths.2
  have kept_eq : ∀ task : Task,
      (if isRead (expectation segment).request = true ∧
          ¬ (reply.operation == .rmaError) = true then
        { state with
          tasks := Function.update state.tasks (expectation segment).taskId (some
            { task with
              segments := storePayload task.segments (expectation segment).taSsn
                reply.bytes }) }
      else state) = kept state segment task reply := by
    intro task
    unfold kept
    congr 1
    rw [eq_iff_iff]
    exact echoes.readResponse_iff.symm
  simp only [answer, message, decoded, payload, completeTargetExecution, operation, destination,
    sender, valid, if_false, route, key, expected, matching, outcome, kept_eq]
  rw [size, start]
  rfl

theorem answer_matches {endpoints : List UInt32} (distinct : endpoints.Nodup)
    {state : ExecutionState} {segment : Segment} {reply : Frame}
    (sound : segment.Sound endpoints) (filed : segment.Filed state)
    (expected : state.pending (executionKey segment) = some (expectation segment))
    (echoes : Echoes segment reply) :
    ∃ next, answer endpoints state segment.destination reply = some next ∧
      Matches state next segment reply ∧ next.delivered = state.delivered ∧
      next.transit = state.transit ∧ next.owner = state.owner ∧
      next.wqes = state.wqes ∧ next.submitted = state.submitted := by
  rw [answer_eq distinct sound expected echoes]
  cases alive : state.tasks segment.context.taskId with
  | none =>
      refine ⟨_, rfl, ⟨rfl, rfl, fun _ _ => rfl, fun _ => alive, ?_⟩, rfl, rfl, rfl, rfl, rfl⟩
      intro task there
      simp [alive] at there
  | some task =>
      obtain ⟨entry, listed, entryOffset, entryBytes⟩ := filed task alive
      have same : ¬ (entry.bytes ≠ segment.bytes ∨ entry.offset ≠ segment.offset) := by
        rw [entryOffset, entryBytes]
        simp
      simp only [listed, same, if_false, kept]
      by_cases served : reply.operation = .readResponse
      · rw [if_pos served]
        refine ⟨_, rfl, ⟨rfl, rfl, ?_, ?_, ?_⟩, rfl, rfl, rfl, rfl, rfl⟩
        · intro taskId other
          exact Function.update_of_ne other _ _
        · intro gone
          simp [alive] at gone
        · intro other own
          obtain rfl := Option.some.inj (alive.symm.trans own)
          rw [if_pos served]
          exact Function.update_self _ _ _
      · rw [if_neg served]
        refine ⟨_, rfl, ⟨rfl, rfl, fun _ _ => rfl, ?_, ?_⟩, rfl, rfl, rfl, rfl, rfl⟩
        · intro gone
          simp [alive] at gone
        · intro other own
          rw [if_neg served]
          exact own

/-- A reply that is accepted finds its own segment. -/
theorem filed_of_answer {endpoints : List UInt32} (distinct : endpoints.Nodup)
    {state next : ExecutionState} {segment : Segment} {reply : Frame}
    (sound : segment.Sound endpoints)
    (expected : state.pending (executionKey segment) = some (expectation segment))
    (echoes : Echoes segment reply)
    (answered : answer endpoints state segment.destination reply = some next) :
    segment.Filed state := by
  rw [answer_eq distinct sound expected echoes] at answered
  intro task alive
  rw [alive] at answered
  dsimp only at answered
  split at answered
  next => simp at answered
  next entry listed =>
    obtain ⟨same, _⟩ := Option.ite_none_left_eq_some.mp answered
    rw [not_or, not_not, not_not] at same
    exact ⟨entry, listed, same.2, same.1⟩

/-! ## Runs -/

/-- Every segment that has been sent, wherever it is now. -/
def ExecutionState.everySegment (state : ExecutionState) : List Segment :=
  state.outcomes.map Prod.fst ++ (state.delivered ++ state.transit)

/-- The task that the fabric has for a WQE. -/
structure Task.Of (wqe : Wqe) (task : Task) : Prop where
  source : task.source = wqe.source
  destination : task.destination = wqe.destination
  context : task.context = wqe.context
  nextOffset : task.nextOffset = wqe.sentBytes

structure Wqe.Sound (endpoints : List UInt32) (state : ExecutionState) (number : Nat)
    (wqe : Wqe) : Prop where
  born : number < state.submitted
  sourceEid : endpoints[wqe.source]? = some wqe.context.sourceEid
  destinationEid : endpoints[wqe.destination]? = some wqe.context.destinationEid
  different : wqe.source ≠ wqe.destination
  operation : Operation.ofCode wqe.context.original.operation = .write ∨
    Operation.ofCode wqe.context.original.operation = .readRequest
  owned : state.owner (wqe.source, wqe.context.original.requestId) = some number

/-- The WQE of a segment, and that the segment lies in what the WQE has sent. -/
structure Segment.Known (state : ExecutionState) (segment : Segment) (number : Nat) : Prop where
  owned : state.owner (segment.source, segment.context.original.requestId) = some number
  born : number < state.submitted
  behind : ∀ wqe, state.wqes number = some wqe → segment.offset < wqe.sentBytes

structure ExecutionState.Sound (endpoints : List UInt32) (state : ExecutionState) : Prop where
  wqes : ∀ number wqe, state.wqes number = some wqe → wqe.Sound endpoints state number
  live : ∀ number wqe, state.wqes number = some wqe →
    ∃ task, state.tasks wqe.context.taskId = some task ∧ task.Of wqe
  apart : ∀ number other wqe wqe', state.wqes number = some wqe → state.wqes other = some wqe' →
    wqe.context.taskId = wqe'.context.taskId → number = other
  segments : ∀ segment ∈ state.delivered ++ state.transit, segment.Sound endpoints
  filed : ∀ segment ∈ state.delivered ++ state.transit, segment.Filed state
  expected : ∀ segment ∈ state.delivered,
    state.pending (executionKey segment) = some (expectation segment)
  keys : (state.delivered.map executionKey).Nodup
  pending : ∀ key, state.pending key ≠ none → key ∈ state.delivered.map executionKey
  once : state.everySegment.Nodup
  known : ∀ segment ∈ state.everySegment, ∃ number, segment.Known state number

/-- No segment is sent with a 16-bit number that its WQE has used already, and no WQE gets the task
id of a WQE that has not ended or of a segment that has not been answered. -/
def Unrepeated (before : ExecutionState) : ExecutionEvent → ExecutionState → Prop
  | .sent number taSsn .., _ =>
      ∀ wqe ∈ before.wqes number, ∀ task ∈ before.tasks wqe.context.taskId,
        findSegment task.segments taSsn.toUInt16 = none
  | .submit .., _ =>
      before.tasks before.nextTask = none ∧
        ∀ segment ∈ before.delivered ++ before.transit,
          segment.context.taskId ≠ before.nextTask
  | _, _ => True

/-! ### The map of segments -/

theorem findSegment_fileSegment_self {segments : List (UInt16 × FiledSegment)} {key : UInt16}
    (fresh : findSegment segments key = none) (segment : FiledSegment) :
    findSegment (fileSegment segments key segment) key = some segment := by
  have absent : segments.find? (fun entry => entry.1 == key) = none := by
    simpa [findSegment] using fresh
  have unused : ¬ segments.any (fun entry => entry.1 == key) = true := by
    intro taken
    obtain ⟨entry, known, same⟩ := List.any_eq_true.mp taken
    exact List.find?_eq_none.mp absent entry known same
  simp [fileSegment, unused, findSegment, absent]

theorem findSegment_fileSegment_of_some {segments : List (UInt16 × FiledSegment)}
    {key other : UInt16} {entry : FiledSegment} (known : findSegment segments other = some entry)
    (segment : FiledSegment) :
    findSegment (fileSegment segments key segment) other = some entry := by
  obtain ⟨pair, found, same⟩ := Option.map_eq_some_iff.mp known
  unfold fileSegment
  split
  next => exact known
  next => simp [findSegment, found, same]

theorem findSegment_storePayload (segments : List (UInt16 × FiledSegment)) (key other : UInt16)
    (payload : Bytes) :
    findSegment (storePayload segments key payload) other =
      (findSegment segments other).map fun entry =>
        if other = key then { entry with readPayload := payload } else entry := by
  unfold findSegment storePayload
  induction segments with
  | nil => rfl
  | cons entry rest inductionHypothesis =>
      by_cases here : entry.1 = other
      · subst here
        by_cases stored : entry.1 = key <;> simp [stored]
      · have unequal : (entry.1 == other) = false := by simpa using here
        rw [List.map_cons, List.find?_cons, List.find?_cons, unequal]
        have kept : ((if entry.1 = key then (entry.1, { entry.2 with readPayload := payload })
            else entry).1 == other) = false := by
          split <;> exact unequal
        rw [kept]
        exact inductionHypothesis

/-! ### The task of a single WQE -/

/-- The task without the payloads it keeps. -/
def Task.native (task : Task) : NativeTask where
  read := isRead task.context.original
  requestId := task.context.original.requestId.toNat
  transferLength := task.context.original.transferLength.toNat
  nextOffset := task.nextOffset
  segments := task.segments.map fun entry => (entry.1, ⟨entry.2.offset, entry.2.bytes⟩)

theorem emplace_fileSegment (segments : List (UInt16 × FiledSegment)) (key : UInt16)
    (segment : FiledSegment) :
    (fileSegment segments key segment).map (fun entry =>
        (entry.1, (⟨entry.2.offset, entry.2.bytes⟩ : NativeSegment))) =
      emplace (segments.map fun entry => (entry.1, ⟨entry.2.offset, entry.2.bytes⟩)) key
        ⟨segment.offset, segment.bytes⟩ := by
  unfold fileSegment emplace
  rw [List.any_map]
  dsimp only [Function.comp_def]
  split
  next => rfl
  next => simp

/-- Both embeddings of `OnNativeSegmentSent` file the same segments. -/
theorem segmentSent_native (task : Task) (taSsn : UInt32) (carrierBytes : Nat) :
    task.native.segmentSent taSsn carrierBytes =
      (onNativeSegmentSent task taSsn carrierBytes).map fun sent => sent.2.native := by
  have read : task.native.read = isRead task.context.original := rfl
  have length : task.native.transferLength = task.context.original.transferLength.toNat := rfl
  have reached : task.native.nextOffset = task.nextOffset := rfl
  dsimp only [NativeTask.segmentSent, onNativeSegmentSent]
  rw [read, length, reached]
  generalize (if isRead task.context.original = true then
    min mtuBytes (task.context.original.transferLength.toNat - task.nextOffset)
    else carrierBytes) = bytes
  by_cases sent : task.context.original.transferLength.toNat ≤ task.nextOffset
  · rw [if_pos sent, if_pos sent]
    rfl
  · rw [if_neg sent, if_neg sent]
    by_cases wrong : bytes = 0 ∨
        task.context.original.transferLength.toNat - task.nextOffset < bytes
    · rw [if_pos wrong, if_pos wrong]
      rfl
    · rw [if_neg wrong, if_neg wrong, Option.map_some]
      simp only [Task.native, emplace_fileSegment]

/-- A payload that is kept does not show. -/
theorem native_storePayload (task : Task) (key : UInt16) (payload : Bytes) :
    ({ task with segments := storePayload task.segments key payload } : Task).native =
      task.native := by
  simp only [Task.native, storePayload, List.map_map]
  congr 1
  apply List.map_congr_left
  intro entry _
  dsimp only [Function.comp_apply]
  split <;> rfl

/-! ### Steps -/

section Steps

variable {endpoints : List UInt32} {state next : ExecutionState}

theorem ExecutionState.Sound.initial : ({} : ExecutionState).Sound endpoints where
  wqes := by simp
  live := by simp
  apart := by simp
  segments := by simp
  filed := by simp
  expected := by simp
  keys := by simp
  pending := by simp
  once := by simp [everySegment]
  known := by simp [everySegment]

/-- Where an entry of a map with one change comes from. -/
theorem update_eq_some {Key Value : Type} [DecidableEq Key] {map : Key → Option Value}
    {key other : Key} {change : Option Value} {value : Value}
    (there : Function.update map key change other = some value) :
    (other = key ∧ change = some value) ∨ (other ≠ key ∧ map other = some value) := by
  by_cases same : other = key
  · subst same
    rw [Function.update_self] at there
    exact .inl ⟨rfl, there⟩
  · rw [Function.update_of_ne same] at there
    exact .inr ⟨same, there⟩

theorem Wqe.Sound.of_same {old wqe : Wqe} {number : Nat} (sound : old.Sound endpoints state number)
    (source : wqe.source = old.source) (destination : wqe.destination = old.destination)
    (context : wqe.context = old.context) (born : number < next.submitted)
    (owned : next.owner (old.source, old.context.original.requestId) = some number) :
    wqe.Sound endpoints next number where
  born := born
  sourceEid := source ▸ context ▸ sound.sourceEid
  destinationEid := destination ▸ context ▸ sound.destinationEid
  different := source ▸ destination ▸ sound.different
  operation := context ▸ sound.operation
  owned := source ▸ context ▸ owned

/-- A request number that was free leaves the owners of the others alone. -/
theorem owner_kept {owner : Nat × UInt64 → Option Nat} {number other : Nat × UInt64}
    {wqe : Nat} (free : owner number = none) (owned : owner other = some wqe)
    (value : Option Nat) : Function.update owner number value other = some wqe := by
  rw [Function.update_of_ne ?_]
  · exact owned
  · rintro rfl
    simp [free] at owned

theorem ExecutionState.Sound.submit (sound : state.Sound endpoints) {source destination : Nat}
    {sequence : UInt64} {wire : Header}
    (taken : executionStep endpoints state (.submit source destination sequence wire) =
      some next)
    (unused : state.tasks state.nextTask = none)
    (unanswered : ∀ segment ∈ state.delivered ++ state.transit,
      segment.context.taskId ≠ state.nextTask) : next.Sound endpoints := by
  simp only [executionStep] at taken
  split at taken
  next sourceEid destinationEid sender receiver =>
    split at taken
    next => simp at taken
    next valid =>
      obtain ⟨different, operation, free⟩ : source ≠ destination ∧
          (Operation.ofCode wire.operation = .write ∨
            Operation.ofCode wire.operation = .readRequest) ∧
          state.owner (source, wire.requestId) = none := by
        rw [not_or, not_or, Option.not_isSome_iff_eq_none] at valid
        exact ⟨valid.1, by tauto, valid.2.2⟩
      obtain rfl := Option.some.inj taken
      -- No WQE has the new id: each has a task under its own.
      have fresh : ∀ number wqe, state.wqes number = some wqe →
          wqe.context.taskId ≠ state.nextTask := by
        intro number wqe there same
        obtain ⟨task, alive, _⟩ := sound.live number wqe there
        rw [same, unused] at alive
        cases alive
      have tasks : (submitNativeWqe state source destination sourceEid destinationEid sequence
          wire).tasks = Function.update state.tasks state.nextTask (some
            { source := source
              destination := destination
              context := ⟨state.nextTask, sourceEid, destinationEid, sequence, wire⟩ }) := by
        simp [submitNativeWqe, unused]
      refine ⟨?_, ?_, ?_, sound.segments, ?_, sound.expected, sound.keys, sound.pending,
        sound.once, ?_⟩
      · intro number wqe there
        rcases update_eq_some there with ⟨rfl, new⟩ | ⟨_, old⟩
        · obtain rfl := Option.some.inj new
          exact ⟨Nat.lt_succ_self _, sender, receiver, different, operation,
            Function.update_self ..⟩
        · have known := sound.wqes number wqe old
          exact known.of_same rfl rfl rfl (Nat.lt_succ_of_lt known.born)
            (owner_kept free known.owned _)
      · intro number wqe there
        rw [tasks]
        rcases update_eq_some there with ⟨rfl, new⟩ | ⟨_, old⟩
        · obtain rfl := Option.some.inj new
          exact ⟨_, Function.update_self .., rfl, rfl, rfl, rfl⟩
        · obtain ⟨task, alive, same⟩ := sound.live number wqe old
          exact ⟨task, (Function.update_of_ne (fresh number wqe old) _ _).trans alive, same⟩
      · intro number other wqe wqe' there elsewhere same
        rcases update_eq_some there with ⟨rfl, new⟩ | ⟨_, old⟩
        · obtain rfl := Option.some.inj new
          rcases update_eq_some elsewhere with ⟨rfl, _⟩ | ⟨_, older⟩
          · rfl
          · exact absurd same.symm (fresh other wqe' older)
        · rcases update_eq_some elsewhere with ⟨rfl, new⟩ | ⟨_, older⟩
          · obtain rfl := Option.some.inj new
            exact absurd same (fresh number wqe old)
          · exact sound.apart number other wqe wqe' old older same
      · intro segment membership task there
        rw [tasks, Function.update_of_ne (unanswered segment membership)] at there
        exact sound.filed segment membership task there
      · intro segment membership
        obtain ⟨number, known⟩ := sound.known segment membership
        refine ⟨number, owner_kept free known.owned _, Nat.lt_succ_of_lt known.born, ?_⟩
        intro wqe there
        have older : number ≠ state.submitted := Nat.ne_of_lt known.born
        exact known.behind wqe ((Function.update_of_ne older _ _).symm.trans there)
  next => simp at taken

theorem ExecutionState.Sound.terminate (sound : state.Sound endpoints) {number : Nat}
    (taken : executionStep endpoints state (.terminate number) = some next) :
    next.Sound endpoints := by
  simp only [executionStep] at taken
  split at taken
  next => simp at taken
  next ended held =>
    split at taken
    next =>
      obtain rfl := Option.some.inj taken
      have others : ∀ other wqe, Function.update state.wqes number none other = some wqe →
          other ≠ number ∧ state.wqes other = some wqe := by
        intro other wqe there
        rcases update_eq_some there with ⟨_, gone⟩ | kept
        · cases gone
        · exact kept
      have kept : ∀ taskId task,
          Function.update state.tasks ended.context.taskId none taskId = some task →
          state.tasks taskId = some task := by
        intro taskId task there
        rcases update_eq_some there with ⟨_, gone⟩ | ⟨_, alive⟩
        · cases gone
        · exact alive
      refine ⟨?_, ?_, ?_, sound.segments, ?_, sound.expected, sound.keys, sound.pending,
        sound.once, ?_⟩
      · intro other wqe there
        have known := sound.wqes other wqe (others other wqe there).2
        exact known.of_same rfl rfl rfl known.born known.owned
      · intro other wqe there
        obtain ⟨apart, old⟩ := others other wqe there
        obtain ⟨task, alive, same⟩ := sound.live other wqe old
        refine ⟨task, (Function.update_of_ne ?_ _ _).trans alive, same⟩
        exact fun shared => apart (sound.apart other number wqe ended old held shared)
      · intro one two wqe wqe' there elsewhere
        exact sound.apart one two wqe wqe' (others one wqe there).2 (others two wqe' elsewhere).2
      · intro segment membership task there
        exact sound.filed segment membership task (kept _ task there)
      · intro segment membership
        obtain ⟨other, known⟩ := sound.known segment membership
        exact ⟨other, known.owned, known.born,
          fun wqe there => known.behind wqe (others other wqe there).2⟩
    next => simp at taken

/-- What `OnNativeSegmentSent` has checked. -/
theorem onNativeSegmentSent_cases {task filed : Task} {taSsn : UInt32} {carrierBytes bytes : Nat}
    (sent : onNativeSegmentSent task taSsn carrierBytes = some (bytes, filed)) :
    bytes = (if isRead task.context.original then
        min mtuBytes (task.context.original.transferLength.toNat - task.nextOffset)
      else carrierBytes) ∧
      0 < bytes ∧ task.nextOffset + bytes ≤ task.context.original.transferLength.toNat ∧
      filed = { task with
        segments := fileSegment task.segments taSsn.toUInt16 ⟨task.nextOffset, bytes, []⟩
        nextOffset := task.nextOffset + bytes } := by
  simp only [onNativeSegmentSent] at sent
  generalize (if isRead task.context.original then
    min mtuBytes (task.context.original.transferLength.toNat - task.nextOffset)
    else carrierBytes) = logicalBytes at sent ⊢
  split at sent
  next => simp at sent
  next short =>
    split at sent
    next => simp at sent
    next valid =>
      obtain ⟨rfl, rfl⟩ := Prod.mk.inj (Option.some.inj sent)
      exact ⟨rfl, by omega, by omega, rfl⟩

/-- The fabric and the transport cut a WQE alike. -/
theorem Task.Of.sent {wqe : Wqe} {task filed : Task} (same : task.Of wqe) {taSsn : UInt32}
    {carrierBytes bytes : Nat}
    (sent : onNativeSegmentSent task taSsn carrierBytes = some (bytes, filed)) :
    bytes = wqe.segmentBytes carrierBytes ∧
      filed = { task with
        segments := fileSegment task.segments taSsn.toUInt16
          ⟨wqe.sentBytes, wqe.segmentBytes carrierBytes, []⟩
        nextOffset := wqe.sentBytes + wqe.segmentBytes carrierBytes } := by
  obtain ⟨size, _, _, shape⟩ := onNativeSegmentSent_cases sent
  have cut : bytes = wqe.segmentBytes carrierBytes := by
    rw [size, same.context, same.nextOffset]
    rfl
  rw [shape, cut, same.nextOffset]
  exact ⟨rfl, rfl⟩

theorem ExecutionState.Sound.sent (sound : state.Sound endpoints) {number carrierBytes : Nat}
    {taSsn : UInt32} {sourcePort destinationPort : UInt16} {payload : Bytes}
    (taken : executionStep endpoints state
      (.sent number taSsn carrierBytes sourcePort destinationPort payload) = some next)
    (unrepeated : ∀ wqe ∈ state.wqes number, ∀ task ∈ state.tasks wqe.context.taskId,
      findSegment task.segments taSsn.toUInt16 = none) : next.Sound endpoints := by
  simp only [executionStep] at taken
  split at taken
  next => simp at taken
  next wqe held =>
    obtain ⟨task, alive, same⟩ := sound.live number wqe held
    rw [alive] at taken
    dsimp only at taken
    split at taken
    next => simp at taken
    next _ filed sent =>
      obtain ⟨valid, taken⟩ := Option.ite_none_left_eq_some.mp taken
      obtain ⟨_, rfl⟩ := same.sent sent
      have known := sound.wqes number wqe held
      have fresh := unrepeated wqe held task alive
      generalize size : wqe.segmentBytes carrierBytes = bytes at taken valid
      obtain ⟨positive, inside⟩ : 0 < bytes ∧
          wqe.sentBytes + bytes ≤ wqe.context.original.transferLength.toNat := by omega
      have mtu : isRead wqe.context.original = true → bytes ≤ 4096 := by
        intro read
        rw [← size, Wqe.segmentBytes, if_pos read]
        exact Nat.min_le_left _ _
      obtain rfl := Option.some.inj taken
      refine ⟨?_, ?_, ?_, ?_, ?_, sound.expected, sound.keys, sound.pending, ?_, ?_⟩
      · intro other found there
        rcases update_eq_some there with ⟨rfl, new⟩ | ⟨_, old⟩
        · obtain rfl := Option.some.inj new
          exact known.of_same rfl rfl rfl known.born known.owned
        · have elsewhere := sound.wqes other found old
          exact elsewhere.of_same rfl rfl rfl elsewhere.born elsewhere.owned
      · intro other found there
        rcases update_eq_some there with ⟨rfl, new⟩ | ⟨apart, old⟩
        · obtain rfl := Option.some.inj new
          exact ⟨_, Function.update_self .., same.source, same.destination, same.context, rfl⟩
        · obtain ⟨theirs, there, alike⟩ := sound.live other found old
          refine ⟨theirs, (Function.update_of_ne ?_ _ _).trans there, alike⟩
          exact fun shared => apart (sound.apart other number found wqe old held shared)
      · have contexts : ∀ other found, Function.update state.wqes number
            (some { wqe with sentBytes := wqe.sentBytes + bytes }) other = some found →
            ∃ old, state.wqes other = some old ∧ found.context = old.context := by
          intro other found there
          rcases update_eq_some there with ⟨rfl, new⟩ | ⟨_, old⟩
          · obtain rfl := Option.some.inj new
            exact ⟨wqe, held, rfl⟩
          · exact ⟨found, old, rfl⟩
        intro one two first second there elsewhere shared
        obtain ⟨old, held, same⟩ := contexts one first there
        obtain ⟨older, kept, alike⟩ := contexts two second elsewhere
        exact sound.apart one two old older held kept (by rw [← same, ← alike, shared])
      · intro segment membership
        rw [← List.append_assoc] at membership
        rcases List.mem_append.mp membership with old | new
        · exact sound.segments segment old
        · obtain rfl := List.mem_singleton.mp new
          exact ⟨known.sourceEid, known.destinationEid, known.different, known.operation, inside,
            mtu⟩
      · intro segment membership found there
        rw [← List.append_assoc] at membership
        rcases update_eq_some there with ⟨shared, new⟩ | ⟨other, kept⟩
        · obtain rfl := Option.some.inj new
          rcases List.mem_append.mp membership with old | new
          · obtain ⟨entry, listed, place, size⟩ :=
              sound.filed segment old task (shared ▸ alive)
            exact ⟨entry, findSegment_fileSegment_of_some listed _, place, size⟩
          · obtain rfl := List.mem_singleton.mp new
            exact ⟨_, findSegment_fileSegment_self fresh _, rfl, rfl⟩
        · have old : segment ∈ state.delivered ++ state.transit := by
            rcases List.mem_append.mp membership with old | new
            · exact old
            · obtain rfl := List.mem_singleton.mp new
              exact absurd rfl other
          exact sound.filed segment old found kept
      · simp only [everySegment]
        rw [← List.append_assoc state.delivered, ← List.append_assoc]
        refine List.nodup_append.mpr ⟨sound.once, by simp, ?_⟩
        -- The segments of this WQE that were sent before lie in front of the new one.
        rintro segment old other new rfl
        obtain rfl := List.mem_singleton.mp new
        obtain ⟨place, earlier⟩ := sound.known _ old
        obtain rfl := Option.some.inj (known.owned.symm.trans earlier.owned)
        exact Nat.lt_irrefl _ (earlier.behind wqe held)
      · intro segment membership
        simp only [everySegment] at membership
        rw [← List.append_assoc state.delivered, ← List.append_assoc] at membership
        rcases List.mem_append.mp membership with old | new
        · obtain ⟨place, earlier⟩ := sound.known segment old
          refine ⟨place, earlier.owned, earlier.born, ?_⟩
          intro found there
          rcases update_eq_some there with ⟨rfl, new⟩ | ⟨_, kept⟩
          · obtain rfl := Option.some.inj new
            exact Nat.lt_add_right _ (earlier.behind wqe held)
          · exact earlier.behind found kept
        · obtain rfl := List.mem_singleton.mp new
          refine ⟨number, known.owned, known.born, ?_⟩
          intro found there
          have there : Function.update state.wqes number _ number = some found := there
          rw [Function.update_self] at there
          obtain rfl := Option.some.inj there
          exact Nat.lt_add_of_pos_right positive

/-- What `OnTargetExecute` has checked. -/
theorem onTargetExecute_cases {segment : Segment}
    (executed : onTargetExecute endpoints state segment = some next) :
    state.pending (executionKey segment) = none ∧
      next = { state with
        delivered := state.delivered ++ [segment]
        pending := Function.update state.pending (executionKey segment)
          (some (expectation segment)) } := by
  simp only [onTargetExecute] at executed
  obtain ⟨_, executed⟩ := Option.ite_none_left_eq_some.mp executed
  obtain ⟨_, executed⟩ := Option.ite_none_left_eq_some.mp executed
  obtain ⟨free, executed⟩ := Option.ite_none_left_eq_some.mp executed
  exact ⟨Option.not_isSome_iff_eq_none.mp free, (Option.some.inj executed).symm⟩

theorem ExecutionState.Sound.execute (sound : state.Sound endpoints) {index : Nat}
    (taken : executionStep endpoints state (.execute index) = some next) :
    next.Sound endpoints := by
  simp only [executionStep] at taken
  split at taken
  next => simp at taken
  next segment carried =>
    obtain ⟨_, taken⟩ := Option.ite_none_left_eq_some.mp taken
    obtain ⟨free, rfl⟩ := onTargetExecute_cases taken
    have moved : ((state.delivered ++ [segment]) ++ state.transit.eraseIdx index).Perm
        (state.delivered ++ state.transit) := by
      rw [List.append_assoc]
      exact (perm_cons_eraseIdx carried).symm.append_left state.delivered
    have every := moved.append_left (state.outcomes.map Prod.fst)
    have fresh : ∀ other ∈ state.delivered, executionKey other ≠ executionKey segment := by
      intro other membership same
      have expected := sound.expected other membership
      rw [same] at expected
      exact Option.some_ne_none _ (expected.symm.trans free)
    refine ⟨?_, sound.live, sound.apart, ?_, ?_, ?_, ?_, ?_, every.nodup_iff.mpr sound.once, ?_⟩
    · intro number wqe there
      have known := sound.wqes number wqe there
      exact known.of_same rfl rfl rfl known.born known.owned
    · intro other membership
      exact sound.segments other (moved.mem_iff.mp membership)
    · intro other membership
      exact sound.filed other (moved.mem_iff.mp membership)
    · intro other membership
      rcases List.mem_append.mp membership with old | new
      · exact (Function.update_of_ne (fresh other old) _ _).trans (sound.expected other old)
      · obtain rfl := List.mem_singleton.mp new
        exact Function.update_self ..
    · rw [List.map_append]
      refine List.nodup_append.mpr ⟨sound.keys, by simp, ?_⟩
      rintro key old _ new rfl
      obtain ⟨other, membership, same⟩ := List.mem_map.mp old
      exact fresh other membership (same.trans (List.mem_singleton.mp new))
    · intro key present
      rw [List.map_append]
      by_cases same : key = executionKey segment
      · simp [same]
      · dsimp only at present
        rw [Function.update_of_ne same] at present
        exact List.mem_append_left _ (sound.pending key present)
    · intro other membership
      obtain ⟨number, known⟩ := sound.known other (every.mem_iff.mp membership)
      exact ⟨number, known.owned, known.born, known.behind⟩

/-- What has been filed stays, but for the payload that is stored. -/
theorem Matches.task {segment : Segment} {reply : Frame}
    (matched : Matches state next segment reply) {taskId : UInt32} {task : Task}
    (there : next.tasks taskId = some task) :
    ∃ old, state.tasks taskId = some old ∧
      ∀ key entry, findSegment old.segments key = some entry →
        ∃ kept, findSegment task.segments key = some kept ∧ kept.offset = entry.offset ∧
          kept.bytes = entry.bytes := by
  by_cases own : taskId = segment.context.taskId
  · subst own
    cases alive : state.tasks segment.context.taskId with
    | none => simp [matched.terminated alive] at there
    | some old =>
        obtain rfl := Option.some.inj ((matched.own old alive).symm.trans there)
        refine ⟨old, rfl, ?_⟩
        split
        next =>
          intro key entry found
          rw [findSegment_storePayload, found]
          refine ⟨_, rfl, ?_⟩
          split <;> exact ⟨rfl, rfl⟩
        next => exact fun key entry found => ⟨entry, found, rfl, rfl⟩
  · rw [matched.others taskId own] at there
    exact ⟨task, there, fun key entry found => ⟨entry, found, rfl, rfl⟩⟩

/-- The tasks stay those of their WQEs. -/
theorem Matches.of {segment : Segment} {reply : Frame}
    (matched : Matches state next segment reply) {wqe : Wqe} {taskId : UInt32} {task : Task}
    (alive : state.tasks taskId = some task) (same : task.Of wqe) :
    ∃ kept, next.tasks taskId = some kept ∧ kept.Of wqe := by
  by_cases own : taskId = segment.context.taskId
  · subst own
    refine ⟨_, matched.own task alive, ?_⟩
    split
    next => exact ⟨same.source, same.destination, same.context, same.nextOffset⟩
    next => exact same
  · exact ⟨task, (matched.others taskId own).trans alive, same⟩

theorem ExecutionState.Sound.answer (distinct : endpoints.Nodup) (sound : state.Sound endpoints)
    {index : Nat} {sequence : UInt64} {ok : Bool} {payload : Bytes}
    (taken : executionStep endpoints state (.answer index sequence ok payload) = some next) :
    next.Sound endpoints := by
  simp only [executionStep] at taken
  split at taken
  next => simp at taken
  next segment held =>
    split at taken
    next => simp at taken
    next reply replied =>
      have there : segment ∈ state.delivered := List.mem_of_getElem? held
      have either := List.mem_append_left state.transit there
      have echoes := echoes_of_targetReply (sound.segments segment either) replied
      have filed : segment.Filed { state with delivered := state.delivered.eraseIdx index } :=
        sound.filed segment either
      obtain ⟨after, answered, matched, delivered, transit, owner, wqes, submitted⟩ :=
        answer_matches distinct (sound.segments segment either) filed
          (sound.expected segment there) echoes
      obtain rfl := Option.some.inj (answered.symm.trans taken)
      have withdrawn := perm_cons_eraseIdx held
      have kept : ∀ other ∈ after.delivered ++ after.transit,
          other ∈ state.delivered ++ state.transit := by
        rw [delivered, transit]
        intro other membership
        exact ((List.eraseIdx_sublist ..).append_right _).subset membership
      have every : after.everySegment.Perm state.everySegment := by
        unfold everySegment
        rw [delivered, transit, matched.outcomes, List.map_append, List.append_assoc]
        exact (withdrawn.symm.append_right state.transit).append_left _
      have keys := (withdrawn.map executionKey).nodup_iff.mp sound.keys
      rw [List.map_cons, List.nodup_cons] at keys
      refine ⟨?_, ?_, ?_, ?_, ?_, ?_, ?_, ?_, every.nodup_iff.mpr sound.once, ?_⟩
      · intro number wqe present
        rw [wqes] at present
        have known := sound.wqes number wqe present
        exact known.of_same rfl rfl rfl (submitted ▸ known.born) (owner ▸ known.owned)
      · intro number wqe present
        rw [wqes] at present
        obtain ⟨task, alive, same⟩ := sound.live number wqe present
        exact matched.of alive same
      · rw [wqes]
        exact sound.apart
      · intro other membership
        exact sound.segments other (kept other membership)
      · intro other membership task alive
        obtain ⟨old, before, entries⟩ := matched.task alive
        obtain ⟨entry, found, place, size⟩ :=
          sound.filed other (kept other membership) old before
        obtain ⟨same, listed, offset, bytes⟩ := entries _ entry found
        exact ⟨same, listed, offset.trans place, bytes.trans size⟩
      · intro other membership
        rw [delivered] at membership
        have apart : executionKey other ≠ executionKey segment := by
          intro same
          exact keys.1 (same ▸ List.mem_map_of_mem membership)
        rw [matched.pending, Function.update_of_ne apart]
        exact sound.expected other (List.mem_of_mem_eraseIdx membership)
      · rw [delivered]
        exact keys.2
      · intro key present
        rw [matched.pending] at present
        by_cases same : key = executionKey segment
        · simp [same] at present
        · rw [Function.update_of_ne same] at present
          have before := (withdrawn.map executionKey).mem_iff.mp (sound.pending key present)
          rw [delivered]
          exact (List.mem_cons.mp before).resolve_left same
      · intro other membership
        obtain ⟨number, known⟩ := sound.known other (every.mem_iff.mp membership)
        refine ⟨number, owner ▸ known.owned, submitted ▸ known.born, ?_⟩
        rw [wqes]
        exact known.behind

theorem ExecutionState.Sound.step (distinct : endpoints.Nodup) (sound : state.Sound endpoints)
    {event : ExecutionEvent} (taken : executionStep endpoints state event = some next)
    (unrepeated : Unrepeated state event next) : next.Sound endpoints := by
  cases event with
  | submit source destination sequence wire =>
      exact sound.submit taken unrepeated.1 unrepeated.2
  | sent number taSsn carrierBytes sourcePort destinationPort payload =>
      exact sound.sent taken unrepeated
  | execute index => exact sound.execute taken
  | answer index sequence ok payload => exact sound.answer distinct taken
  | terminate number => exact sound.terminate taken

end Steps

instance (before : ExecutionState) (event : ExecutionEvent) (after : ExecutionState) :
    Decidable (Unrepeated before event after) := by
  unfold Unrepeated
  rcases event with _ | _ <;> infer_instance

/-- Whatever the device of a target replies to a segment completes that segment. -/
structure MatchedOneToOne (endpoints : List UInt32) (state : ExecutionState) : Prop where
  answered : ∀ segment ∈ state.delivered, ∀ sequence ok payload reply,
    targetReply (requestFrame segment) sequence ok payload = some reply →
    ∃ next, answer endpoints state segment.destination reply = some next ∧
      Matches state next segment reply
  filed : ∀ segment ∈ state.delivered, segment.Filed state
  once : (state.outcomes.map Prod.fst ++ state.delivered).Nodup
  left : state.delivered = [] → ∀ key, state.pending key = none

theorem executions_matched {endpoints : List UInt32} {state : ExecutionState}
    (distinct : endpoints.Nodup) (reached : Reaches (executionStep endpoints) Unrepeated {} state) :
    MatchedOneToOne endpoints state := by
  have sound : state.Sound endpoints := reached.invariant .initial
    fun _ _ _ before taken unrepeated => before.step distinct taken unrepeated
  refine ⟨?_, ?_, ?_, ?_⟩
  · intro segment membership sequence ok payload reply replied
    have either := List.mem_append_left state.transit membership
    obtain ⟨next, answered, matched, _⟩ :=
      answer_matches distinct (sound.segments segment either) (sound.filed segment either)
        (sound.expected segment membership)
        (echoes_of_targetReply (sound.segments segment either) replied)
    exact ⟨next, answered, matched⟩
  · intro segment membership
    exact sound.filed segment (List.mem_append_left _ membership)
  · have once := sound.once
    unfold ExecutionState.everySegment at once
    rw [← List.append_assoc] at once
    exact (List.nodup_append.mp once).1
  · intro empty key
    by_contra present
    have listed := sound.pending key present
    simp [empty] at listed

/-- A one-sided request of `length` bytes. -/
def rmaHeader (operation : UInt8) (length : UInt32) : Header where
  magic := wireMagic
  version := wireVersion
  operation := operation
  flags := lastFragmentFlag
  sourceJetty := 3
  destinationJetty := 4
  tpn := 5
  segment := 6
  remoteAddress := 0x1000
  immediate := 0
  requestId := 7
  taSsn := 0
  transferLength := length
  payloadLength := 0
  payloadOffset := 0

/-- A WRITE and a READ of two sources, with the same numbers, are both with a device. -/
theorem shared_numbers_matched :
    [1, 2].Nodup ∧ ∃ state, Reaches (executionStep [1, 2]) Unrepeated {} state ∧
      state.delivered.length = 2 ∧ MatchedOneToOne [1, 2] state := by
  obtain ⟨state, reached, count⟩ := exists_of_execute
    (show (execute (executionStep [1, 2]) Unrepeated
      [.submit 0 1 9 (rmaHeader 3 4), .submit 1 0 9 (rmaHeader 6 4),
        .sent 0 0 4 0 0 [1, 2, 3, 4], .sent 1 0 1 0 0 [], .execute 0, .execute 0] {}).map
          (fun state => state.delivered.length) = some 2 by decide +kernel)
  exact ⟨by decide, state, reached, count, executions_matched (by decide) reached⟩

/-! ## A long READ -/

/-- A WQE numbers its segments from zero on, and those that are outstanding differ in the
low 16 bits. -/
def Numbered (before : ExecutionState) : ExecutionEvent → ExecutionState → Prop
  | .sent number taSsn .., _ =>
      ∀ wqe ∈ before.wqes number,
        (∀ task ∈ before.tasks wqe.context.taskId, taSsn = .ofNat task.segments.length) ∧
          ∀ segment ∈ before.delivered ++ before.transit, segment.context = wqe.context →
            segment.taSsn.toUInt16 ≠ taSsn.toUInt16
  | _, _ => True

instance (before : ExecutionState) (event : ExecutionEvent) (after : ExecutionState) :
    Decidable (Numbered before event after) := by
  unfold Numbered
  rcases event with _ | _ <;> infer_instance

/-- One MTU more than 2 ^ 16 of them. -/
def longRead : Header := rmaHeader 6 0x10001000

def longContext : RequestContext := ⟨1, 1, 2, 9, longRead⟩

def longWqe (count : Nat) : Wqe where
  source := 0
  destination := 1
  context := longContext
  sentBytes := 4096 * (count + 1)

def longTask (payload : Bytes) (count : Nat) : Task where
  source := 0
  destination := 1
  context := longContext
  nextOffset := 4096 * (count + 1)
  segments := (0, ⟨0, 4096, payload⟩) ::
    (List.range count).map fun index => (.ofNat (index + 1), ⟨4096 * (index + 1), 4096, []⟩)

def longSegment (index : Nat) : Segment where
  source := 0
  destination := 1
  context := longContext
  taSsn := .ofNat index
  offset := 4096 * index
  bytes := 4096
  sourcePort := 0
  destinationPort := 0
  payload := []

theorem longTask_first (payload : Bytes) (count : Nat) :
    findSegment (longTask payload count).segments 0 = some ⟨0, 4096, payload⟩ := by
  simp [findSegment, longTask]

/-- The first segment has been answered and `count` more are under way. -/
structure Sending (payload : Bytes) (count : Nat) (state : ExecutionState) : Prop where
  reached : Reaches (executionStep [1, 2]) Numbered {} state
  wqe : state.wqes 0 = some (longWqe count)
  task : state.tasks 1 = some (longTask payload count)
  delivered : state.delivered = []
  transit : state.transit = (List.range count).map fun index => longSegment (index + 1)
  pending : state.pending (executionKey (longSegment 0)) = none

theorem longSegment_sound {index : Nat} (inside : index ≤ 2 ^ 16) :
    (longSegment index).Sound [1, 2] := by
  refine ⟨rfl, rfl, Nat.zero_ne_one, .inr rfl, ?_, fun _ => Nat.le_refl _⟩
  have length : longContext.original.transferLength.toNat = 2 ^ 28 + 4096 := rfl
  simp only [longSegment, length]
  omega

theorem sending_zero : ∃ payload state, Sending payload 0 state := by
  obtain ⟨payload, whole⟩ : ∃ payload : Bytes, payload.length = 4096 :=
    ⟨List.replicate 4096 0, List.length_replicate⟩
  obtain ⟨state, reached, seen⟩ := exists_of_execute
    (show (execute (executionStep [1, 2]) Numbered
      [.submit 0 1 9 longRead, .sent 0 0 1 0 0 [], .execute 0] {}).map
        (fun state => ((state.wqes 0, state.tasks 1), (state.delivered, state.transit),
          state.pending (executionKey (longSegment 0)))) =
            some ((some (longWqe 0), some (longTask [] 0)), ([longSegment 0], []),
              some (expectation (longSegment 0))) by decide +kernel)
  simp only [Prod.mk.injEq] at seen
  obtain ⟨⟨wqe, task⟩, ⟨delivered, transit⟩, pending⟩ := seen
  have sound := @longSegment_sound 0 (by omega)
  have replied : targetReply (requestFrame (longSegment 0)) 0 true payload =
      some (replyTo (requestFrame (longSegment 0)) 0 .readResponse payload) := by
    have kind : (requestFrame (longSegment 0)).operation = .readRequest := by decide
    have inside : placed (requestFrame (longSegment 0)) = true := by decide +kernel
    have size : (requestFrame (longSegment 0)).transferLength.toNat = 4096 := by decide +kernel
    simp [targetReply, receiveReadRequest, kind, inside, size, whole]
  have filed : (longSegment 0).Filed { state with delivered := [] } := by
    intro own alive
    obtain rfl := Option.some.inj (task.symm.trans alive)
    exact ⟨⟨0, 4096, []⟩, by decide, rfl, rfl⟩
  obtain ⟨next, answered, matched, nextDelivered, nextTransit, _, nextWqes, _⟩ :=
    answer_matches (by decide) sound filed pending (echoes_of_targetReply sound replied)
  refine ⟨payload, next, ?_, nextWqes ▸ wqe, ?_, ?_, ?_, ?_⟩
  · have taken : executionStep [1, 2] state (.answer 0 0 true payload) = some next := by
      simp only [executionStep, delivered, List.getElem?_cons_zero, replied]
      exact answered
    exact reached.tail taken trivial
  · exact matched.own _ task
  · exact nextDelivered
  · rw [nextTransit]
    exact transit
  · rw [matched.pending]
    exact Function.update_self ..

theorem toUInt16_ofNat (number : Nat) :
    (UInt32.ofNat number).toUInt16 = UInt16.ofNat number := by
  apply UInt16.toNat_inj.mp
  simp only [UInt32.toNat_toUInt16, UInt32.toNat_ofNat', UInt16.toNat_ofNat']
  omega

/-- The task after one more segment, which may find its number taken. -/
def longTaskSent (payload : Bytes) (count : Nat) : Task :=
  { longTask payload count with
    segments := fileSegment (longTask payload count).segments
      (UInt32.ofNat (count + 1)).toUInt16 ⟨4096 * (count + 1), 4096, []⟩
    nextOffset := 4096 * (count + 1) + 4096 }

theorem longTaskSent_first (payload : Bytes) (count : Nat) :
    findSegment (longTaskSent payload count).segments 0 = some ⟨0, 4096, payload⟩ :=
  findSegment_fileSegment_of_some (longTask_first payload count) _

theorem sending_sent {payload : Bytes} {count : Nat} {state : ExecutionState}
    (sending : Sending payload count state) (more : count < 2 ^ 16) :
    ∃ next, Reaches (executionStep [1, 2]) Numbered {} next ∧
      next.wqes 0 = some (longWqe (count + 1)) ∧
      next.tasks 1 = some (longTaskSent payload count) ∧
      next.delivered = [] ∧
      next.transit = (List.range (count + 1)).map (fun index => longSegment (index + 1)) ∧
      next.pending = state.pending := by
  have read : isRead longContext.original = true := rfl
  have length : longContext.original.transferLength.toNat = 2 ^ 28 + 4096 := rfl
  have short : ¬ 2 ^ 28 + 4096 ≤ 4096 * (count + 1) := by omega
  have size : min mtuBytes (2 ^ 28 + 4096 - 4096 * (count + 1)) = 4096 := by
    simp only [mtuBytes]
    omega
  have valid : ¬ 2 ^ 28 + 4096 - 4096 * (count + 1) < 4096 := by omega
  have sent : onNativeSegmentSent (longTask payload count) (.ofNat (count + 1)) 1 =
      some (4096, longTaskSent payload count) := by
    have context : (longTask payload count).context = longContext := rfl
    have reached : (longTask payload count).nextOffset = 4096 * (count + 1) := rfl
    simp only [onNativeSegmentSent, context, read, length, reached, short, size, valid, if_true,
      if_false]
    rfl
  have cut : (longWqe count).segmentBytes 1 = 4096 := by
    have context : (longWqe count).context = longContext := rfl
    have reached : (longWqe count).sentBytes = 4096 * (count + 1) := rfl
    simp only [Wqe.segmentBytes, context, read, length, reached, size, if_true]
  have taken : executionStep [1, 2] state (.sent 0 (.ofNat (count + 1)) 1 0 0 []) =
      some { state with
        wqes := Function.update state.wqes 0 (some (longWqe (count + 1)))
        tasks := Function.update state.tasks 1 (some (longTaskSent payload count))
        transit := state.transit ++ [longSegment (count + 1)] } := by
    have task : state.tasks longContext.taskId = some (longTask payload count) := sending.task
    have owned : (longTask payload count).source = (longWqe count).source := rfl
    have context : (longWqe count).context = longContext := rfl
    have reached : (longWqe count).sentBytes = 4096 * (count + 1) := rfl
    have next : 4096 * (count + 1) + 4096 = 4096 * (count + 1 + 1) := by ring
    simp only [executionStep, sending.wqe, context, task, sent, cut, owned, reached, read, length,
      valid, next]
    rfl
  refine ⟨_, sending.reached.tail taken ?_, ?_, ?_, sending.delivered, ?_, rfl⟩
  · intro wqe there
    obtain rfl := Option.some.inj (sending.wqe.symm.trans there)
    refine ⟨?_, ?_⟩
    · intro task there
      obtain rfl := Option.some.inj (sending.task.symm.trans there)
      simp [longTask]
    · intro segment membership _
      rw [sending.delivered, sending.transit, List.nil_append] at membership
      obtain ⟨index, listed, rfl⟩ := List.mem_map.mp membership
      have before := List.mem_range.mp listed
      intro same
      have numbers := congrArg UInt16.toNat same
      simp only [longSegment, UInt32.toNat_toUInt16, UInt32.toNat_ofNat'] at numbers
      omega
  · dsimp only
    rw [Function.update_self]
  · dsimp only
    rw [Function.update_self]
  · simp only [sending.transit, List.range_succ, List.map_append, List.map_cons, List.map_nil]

theorem sending_all {payload : Bytes} {state : ExecutionState} (sending : Sending payload 0 state)
    {count : Nat} (few : count < 2 ^ 16) : ∃ state, Sending payload count state := by
  induction count with
  | zero => exact ⟨state, sending⟩
  | succ count inductionHypothesis =>
      obtain ⟨before, earlier⟩ := inductionHypothesis (by omega)
      obtain ⟨next, reached, wqe, task, delivered, transit, pending⟩ :=
        sending_sent earlier (by omega)
      refine ⟨next, reached, wqe, ?_, delivered, transit, ?_⟩
      · have fresh : ¬ (longTask payload count).segments.any (fun entry =>
            entry.1 == UInt16.ofNat (count + 1)) = true := by
          intro taken
          obtain ⟨entry, listed, same⟩ := List.any_eq_true.mp taken
          have number := congrArg UInt16.toNat (beq_iff_eq.mp same)
          rw [UInt16.toNat_ofNat'] at number
          rcases List.mem_cons.mp listed with rfl | later
          · simp at number
            omega
          · obtain ⟨index, inside, rfl⟩ := List.mem_map.mp later
            have lower := List.mem_range.mp inside
            simp only [UInt16.toNat_ofNat'] at number
            omega
        rw [task, longTaskSent, toUInt16_ofNat, fileSegment, if_neg fresh]
        simp only [longTask, List.range_succ, List.map_append, List.map_cons, List.map_nil,
          List.cons_append, Nat.mul_add]
      · rw [pending]
        exact earlier.pending

/-- The segment after the first 2 ^ 16 has the number of the first one, whose entry is in its
place. -/
theorem long_read_unmatched :
    ¬ ∀ state, Reaches (executionStep [1, 2]) Numbered {} state →
      MatchedOneToOne [1, 2] state := by
  intro always
  obtain ⟨payload, first, start⟩ := sending_zero
  obtain ⟨before, sending⟩ := sending_all start (show 2 ^ 16 - 1 < 2 ^ 16 by omega)
  obtain ⟨sent, reached, _, task, delivered, transit, pending⟩ :=
    sending_sent sending (by omega)
  have key : executionKey (longSegment (2 ^ 16)) = executionKey (longSegment 0) := rfl
  have free : sent.pending (executionKey (longSegment (2 ^ 16))) = none := by
    rw [key, pending]
    exact sending.pending
  have last : sent.transit[2 ^ 16 - 1]? = some (longSegment (2 ^ 16)) := by
    rw [transit, List.getElem?_map, List.getElem?_range (by omega)]
    rfl
  have taken : executionStep [1, 2] sent (.execute (2 ^ 16 - 1)) = some { sent with
      transit := sent.transit.eraseIdx (2 ^ 16 - 1)
      delivered := [longSegment (2 ^ 16)]
      pending := Function.update sent.pending (executionKey (longSegment (2 ^ 16)))
        (some (expectation (longSegment (2 ^ 16)))) } := by
    simp only [executionStep, last, delivered, onTargetExecute, free]
    rfl
  have matched := always _ (reached.tail taken trivial)
  have sound := @longSegment_sound (2 ^ 16) (Nat.le_refl _)
  have replied : targetReply (requestFrame (longSegment (2 ^ 16))) 0 false [] =
      some (replyTo (requestFrame (longSegment (2 ^ 16))) 0 .rmaError []) := by
    decide +kernel
  obtain ⟨next, answered, _⟩ :=
    matched.answered _ (List.mem_singleton.mpr rfl) 0 false [] _ replied
  have expected : Function.update sent.pending (executionKey (longSegment (2 ^ 16)))
      (some (expectation (longSegment (2 ^ 16)))) (executionKey (longSegment (2 ^ 16))) =
        some (expectation (longSegment (2 ^ 16))) := Function.update_self ..
  have filed := filed_of_answer (by decide) sound expected
    (echoes_of_targetReply sound replied) answered
  obtain ⟨entry, found, place, _⟩ := filed _ task
  have old := longTaskSent_first payload (2 ^ 16 - 1)
  obtain rfl := Option.some.inj (old.symm.trans found)
  simp [longSegment] at place

end Udma.Native
