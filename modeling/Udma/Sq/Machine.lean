import Udma.Sq.Engine

/-!
# Callbacks, replies, control commands and the step function

What the host, the network, the peer and the guest can do to the engine.  They
act only while no engine code is running: when the stack is empty, or inside a
host or network call that has not returned (`Task.external` on top).
-/

namespace Udma.Sq

open Udma.Abi Udma.Arithmetic Udma.Collections

/-! ## Outstanding RMA requests -/

namespace State

def findPending (state : State) (requestId : Nat) : Option PendingRma :=
  state.pendingRma.find? (fun pending => pending.requestId == requestId)

/-- Request numbers are the keys of a map, so the first match is the only one. -/
@[simps]
def erasePending (state : State) (requestId : Nat) : State :=
  { state with
    pendingRma := state.pendingRma.eraseP fun pending => pending.requestId == requestId }

@[simps]
def setPending (state : State) (progress : PendingRma) : State :=
  { state with
    pendingRma := markFirst (fun pending => pending.requestId == progress.requestId)
      (fun _ => progress) state.pendingRma }

end State

/-- `std::lower_bound` on the interval starts, the overlap test with the two
neighbours, and the insertion. -/
def insertRange (ranges : List (Nat × Nat)) (first last : Nat) :
    Option (List (Nat × Nat)) :=
  let lower := ranges.takeWhile fun range => decide (range.1 < first)
  let upper := ranges.dropWhile fun range => decide (range.1 < first)
  let hitsNext := upper.head?.any fun range => decide (range.1 < last)
  let hitsPrevious := lower.getLast?.any fun range => decide (first < range.2)
  if hitsNext || hitsPrevious then none else some (lower ++ (first, last) :: upper)

/-- Whether the reply names a fresh, in-range part of the transfer. -/
def replyInRange (pending : PendingRma) (reply : Reply) (progressed : Nat) : Bool :=
  reply.transferLength != 0 &&
    !(pending.completedTassns.any fun known => known.1 == reply.taSsn) &&
    decide (reply.transactionOffset ≤ pending.request.byteCount) &&
    decide (reply.transferLength ≤ pending.request.byteCount - reply.transactionOffset) &&
    decide (reply.transferLength ≤ pending.request.byteCount - progressed)

def receiveWriteAck (state : State) (reply : Reply) : State :=
  match state.findPending reply.requestId with
  | none => state
  | some pending =>
      if pending.request.opcode ≠ 3 then state
      else if !replyInRange pending reply pending.completedBytes then state
      else
        match insertRange pending.responseRanges reply.transactionOffset
            (reply.transactionOffset + reply.transferLength) with
        | none => state
        | some ranges =>
            let progress := { pending with
              responseRanges := ranges
              completedTassns := pending.completedTassns ++ [(reply.taSsn, true)]
              completedBytes := pending.completedBytes + reply.transferLength }
            if progress.completedBytes ≠ pending.request.byteCount then
              state.setPending progress
            else
              (state.erasePending reply.requestId).push
                [.completeSq pending.jettyId pending.request 0 0]

def receiveReadResponse (state : State) (reply : Reply) : State :=
  match state.findPending reply.requestId with
  | none => state
  | some pending =>
      if pending.request.opcode ≠ 6 ∨ pending.failed ∨
          reply.bytes.length ≠ reply.transferLength then state
      else if !replyInRange pending reply pending.acceptedBytes then state
      else if 2 ^ 64 - 1 - pending.localAddress < pending.request.byteCount - 1 then state
      else
        match insertRange pending.responseRanges reply.transactionOffset
            (reply.transactionOffset + reply.transferLength) with
        | none => state
        | some ranges =>
            ((state.setPending { pending with
                responseRanges := ranges
                completedTassns := pending.completedTassns ++ [(reply.taSsn, false)]
                acceptedBytes := pending.acceptedBytes + reply.transferLength
                responseDma := pending.responseDma + 1 }).emit
              [.dmaWrite pending.jettyId pending.localToken
                (pending.localAddress + reply.transactionOffset) reply.transferLength]).call
              (.response reply.requestId reply.taSsn reply.transferLength)

/-- The failure of a whole request, held back while response DMA is live. -/
def failPending (state : State) (pending : PendingRma) (status : Nat) : State :=
  if pending.responseDma ≠ 0 then state.setPending { pending with failed := true }
  else
    (state.erasePending pending.requestId).push
      [.completeSq pending.jettyId pending.request status 0]

def receive (state : State) (reply : Reply) : State :=
  match reply.operation with
  | .writeAck => receiveWriteAck state reply
  | .readResponse => receiveReadResponse state reply
  | .rmaError =>
      match state.findPending reply.requestId with
      | none => state
      | some pending => failPending state pending 5

/-! ## Callbacks -/

/-- The prefetch callback fills the entries that are still wanted. -/
def Cache.fill (cache : Cache) (start count : Nat) (bytes : Bytes) : Cache :=
  cache.map fun entry =>
    if start ≤ entry.1 ∧ entry.1 < start + count then
      (entry.1, (bytes.drop ((entry.1 - start) * wqebbBytes)).take wqebbBytes)
    else entry

def prefetched (state : State) (id start count : Nat) (ok : Bool) (bytes : Bytes) : State :=
  match state.jetty id with
  | none => state
  | some jetty =>
      let arrived := ok && bytes.length == count * wqebbBytes
      let failed := jetty.pipe.prefetchFailed || !arrived
      let pipe := { jetty.pipe with
        prefetchInflight := jetty.pipe.prefetchInflight - 1
        prefetchFailed := failed
        cache := if failed then jetty.pipe.cache
                 else jetty.pipe.cache.fill start count bytes }
      let next := state.setJetty id
        ⟨{ jetty.context with busy := pipe.busyNow }, some pipe⟩
      if failed then next
      else next.push [.processSq id jetty.context.targetProducer []]

def continued (state : State) (id : Nat) (raw : Bytes)
    (remaining nextSlot contiguous : Nat) (ok : Bool) (bytes : Bytes) : State :=
  match state.jetty id with
  | none => state
  | some jetty =>
      if ok && bytes.length == contiguous * wqebbBytes then
        state.push [.continueSqWqe id (raw ++ bytes) (remaining - contiguous)
          ((nextSlot + contiguous) &&& (jetty.context.depth - 1))]
      else state.setJetty id jetty.fail

def PreparedWrite.arrive (prepared : PreparedWrite) (expected : Nat) (ok : Bool)
    (bytes : Bytes) : PreparedWrite :=
  if ok && bytes.length == expected then
    { prepared with failed := false, payload := bytes, ready := true }
  else { prepared with failed := true, ready := true }

/-- The payload callback of a prepared WRITE.  The record shared with the deque
is named by the position at which it was reserved. -/
def writePayloadRead (state : State) (id position expected : Nat) (ok : Bool)
    (bytes : Bytes) : State :=
  match state.jetty id with
  | none => state
  | some jetty =>
      let pipe := jetty.pipe
      (state.setJetty id ⟨jetty.context, some { pipe with
        preparedWrites := pipe.preparedWrites.map fun prepared =>
          if prepared.request.position = position then prepared.arrive expected ok bytes
          else prepared }⟩).push [.drainPreparedWrites id]

def sendPayloadRead (state : State) (id : Nat) (raw : Bytes) (expected : Nat) (ok : Bool)
    (bytes : Bytes) : State :=
  match state.jetty id with
  | none => state
  | some jetty =>
      if ok && bytes.length == expected then
        state.push [.submitSqPayload id raw bytes none]
      else state.setJetty id jetty.fail

/-- The send callback of a READ looks its request up again. -/
def readSent (state : State) (requestId : Nat) (ok : Bool) : State :=
  if ok then state
  else
    match state.findPending requestId with
    | none => state
    | some pending => failPending state pending 1

/-- The send callback of a WRITE or SEND does not. -/
def payloadSent (state : State) (id : Nat) (request : SqRequest) (requestId : Nat)
    (ok : Bool) : State :=
  if !ok then
    (if requestId ≠ 0 then state.erasePending requestId else state).push
      [.completeSq id request 1 0]
  else if request.opcode = 3 then state
  else state.push [.completeSq id request 0 0]

/-- The callback of the host write that stores part of a READ response. -/
def responseStored (state : State) (requestId taSsn transferLength : Nat) (ok : Bool) :
    State :=
  match state.findPending requestId with
  | none => state
  | some pending =>
      let drained := { pending with responseDma := pending.responseDma - 1 }
      let progress : PendingRma :=
        if ok then { drained with
          completedTassns := drained.completedTassns.map fun known =>
            if known.1 == taSsn then (taSsn, true) else known
          completedBytes := drained.completedBytes + transferLength }
        else { drained with failed := true }
      if progress.responseDma ≠ 0 ∨
          (¬ progress.failed ∧ progress.completedBytes ≠ progress.request.byteCount) then
        state.setPending progress
      else
        (state.erasePending requestId).push
          [.completeSq progress.jettyId progress.request (if progress.failed then 5 else 0) 0]

/-- The completion engine reports on a CQE. -/
def cqeWritten (config : Config) (state : State) (id : Nat) (entry : SqCompletion)
    (ok : Bool) : State :=
  (state.emit [.published id entry.request.position ok]).push
    [if config.pipelinedCompletionDma then .finishSqPipelined id entry ok
     else .finishSq id entry ok]

def runCallback (config : Config) (state : State) (ok : Bool) (bytes : Bytes) :
    Callback → State
  | .prefetch id start count => prefetched state id start count ok bytes
  | .continuation id raw remaining nextSlot contiguous =>
      continued state id raw remaining nextSlot contiguous ok bytes
  | .writePayload id position expected => writePayloadRead state id position expected ok bytes
  | .sendPayload id raw expected => sendPayloadRead state id raw expected ok bytes
  | .readSent requestId => readSent state requestId ok
  | .payloadSent id request requestId => payloadSent state id request requestId ok
  | .response requestId taSsn transferLength =>
      responseStored state requestId taSsn transferLength ok
  | .cqe id entry => cqeWritten config state id entry ok

/-! ## Guest writes -/

/-- The producer a direct descriptor announces: its low 16 bits are in the first
word, the rest is taken from `issue`. -/
def directProducer (issue low : Nat) : Nat :=
  let base := issue % 2 ^ 32
  let producer := (base &&& 0xffff0000) ||| low
  if producer < base then (producer + 0x10000) % 2 ^ 32 else producer

def storeBytes (window : Bytes) (offset : Nat) : Bytes → Bytes
  | [] => window
  | byte :: rest => storeBytes (window.set offset byte) (offset + 1) rest

def validBits (valid offset : Nat) : Nat → Nat
  | 0 => valid
  | length + 1 => validBits (valid ||| (1 <<< offset)) (offset + 1) length

/-- A write into the direct window of `HandleJettyMmio`. -/
def directWrite (state : State) (id offset : Nat) (data : Bytes) : State :=
  match state.jetty id with
  | none => state
  | some jetty =>
      let window := storeBytes jetty.context.directWqe offset data
      let valid := validBits jetty.context.directValid offset data.length
      let stored := { jetty.context with directWqe := window, directValid := valid }
      if valid = 2 ^ 64 - 1 then
        let producer := directProducer jetty.pipe.issue (load32 window 0 &&& 0xffff)
        ((state.setJetty id
          { jetty with context := { stored with directValid := 0, directPending := true } }).emit
            [.direct id producer window]).push [.processSq id producer window]
      else state.setJetty id { jetty with context := stored }

/-! ## TP routes and links -/

/-- Rebind a route whose port went down, or deactivate it. -/
def TpRoute.rebind (linkUp : List Bool) (port : Nat) (route : TpRoute) : TpRoute :=
  if route.port ≠ port then route
  else
    match linkUp.findIdx? (fun up => up) with
    | some candidate => { route with port := candidate }
    | none => { route with active := false }

def setLinkState (state : State) (port : Nat) (up : Bool) : State :=
  if state.linkUp.length ≤ port then state
  else
    let linkUp := state.linkUp.set port up
    if up then { state with linkUp := linkUp }
    else { state with linkUp := linkUp, tpRoutes := state.tpRoutes.map (·.rebind linkUp port) }

/-- The search for a free TP number: the candidate and the next one to try. -/
def allocateTpId (routes : List TpRoute) : Nat → Nat → Nat → Nat × Nat
  | 0, candidate, next => (candidate, next)
  | attempts + 1, candidate, next =>
      let following := if 1024 ≤ next + 1 then 1 else next + 1
      if (findRoute routes candidate).isNone then (candidate, following)
      else allocateTpId routes attempts following following

/-- The search for a port with its link up, and the advanced cursor. -/
def allocateTpPort (linkUp : List Bool) (portCount : Nat) : Nat → Nat → Option Nat × Nat
  | 0, cursor => (none, cursor)
  | attempts + 1, cursor =>
      let advanced := (cursor + 1) % 2 ^ 32
      if linkUp.getD (cursor % portCount) false then (some (cursor % portCount), advanced)
      else allocateTpPort linkUp portCount attempts advanced

/-- `get_tp` of `BuildCtrlqResponse`. -/
def getTp (config : Config) (state : State) (localEid remoteEid : Nat) : State :=
  if 1023 ≤ state.tpRoutes.length ∨ localEid = 0 ∨ remoteEid = 0 then state
  else
    let chosen := allocateTpId state.tpRoutes 1023 state.nextTpId state.nextTpId
    let found := allocateTpPort state.linkUp config.portCount config.portCount state.nextTpPort
    let advanced := { state with nextTpId := chosen.2, nextTpPort := found.2 }
    match found.1 with
    | none => advanced
    | some port =>
        if (findRoute state.tpRoutes chosen.1).isSome then advanced
        else { advanced with
          tpRoutes := state.tpRoutes ++ [⟨chosen.1, localEid, remoteEid, port, false⟩] }

/-- `activate` and `deactivate` of `BuildCtrlqResponse`. -/
def setTpActive (state : State) (id : Nat) (active : Bool) : State :=
  match findRoute state.tpRoutes id with
  | none => state
  | some route =>
      if active ∧ ¬ state.linkUp.getD route.port false then state
      else { state with
        tpRoutes := state.tpRoutes.map fun other =>
          if other.id = id then { other with active := active } else other }

/-- `remove` of `BuildCtrlqResponse`. -/
def removeTp (state : State) (id : Nat) : State :=
  match findRoute state.tpRoutes id with
  | none => state
  | some route =>
      if route.active ∨ state.pendingRma ≠ [] then state
      else { state with tpRoutes := state.tpRoutes.filter fun other => !(other.id == id) }

/-- The create-Jetty mailbox command (`0x04`). -/
def createJetty (state : State) (id : Nat) (context : QueueContext) : State :=
  if (state.jetty id).isSome ∨ context.queueIova = 0 then state
  else
    state.setJetty id
      { context :=
          { queueIova := context.queueIova
            sqShift := context.sqShift
            completionQueue := context.completionQueue
            token := context.token
            payloadToken := context.payloadToken
            eidIndex := context.eidIndex
            userQueue := context.userQueue
            isJetty := context.isJetty } }

/-! ## A small instance -/

/-- The default bounds, on two ports. -/
def Config.small (pipelined : Bool) : Config where
  endpointEid := 0x100
  portCount := 2
  sqPrefetchWqebbs := 64
  sqFetchBurstWqebbs := 16
  sqFetchMaxOutstanding := 4
  writePayloadReadWindow := 8
  completionEventSlots := 64
  maxReadOutstanding := 0
  pipelinedCompletionDma := pipelined
  prefetch_bounds := by decide
  burst_bounds := by decide
  fetch_bounds := by decide
  window_bounds := by decide
  slots_bounds := by decide

/-- A Jetty with `2 ^ shift` blocks. -/
def QueueContext.small (shift : Fin 16) : QueueContext where
  queueIova := 0x2000
  sqShift := shift
  completionQueue := 7
  token := 1
  payloadToken := 1
  eidIndex := 0
  userQueue := 0
  isJetty := true

/-! ## The step function -/

inductive Event where
  /-- The engine runs the top of its stack. -/
  | run
  /-- The callback at `index` of the outstanding ones is called. -/
  | fire (index : Nat) (ok : Bool) (bytes : Bytes)
  | doorbell (id producer : Nat)
  | directWrite (id offset : Nat) (data : Bytes)
  | receive (reply : Reply)
  | setLinkState (port : Nat) (up : Bool)
  | getTp (localEid remoteEid : Nat)
  | setTpActive (id : Nat) (active : Bool)
  | removeTp (id : Nat)
  | createJetty (id : Nat) (context : QueueContext)
  deriving DecidableEq, Repr

/-- Nothing of the engine is running, or it waits for a call to return. -/
def State.atBoundary (state : State) : Bool :=
  match state.stack with
  | [] => true
  | .external :: _ => true
  | _ => false

/-- What an outside party does at the boundary. -/
def environment (config : Config) (state : State) : Event → Option State
  | .run => none
  | .fire index ok bytes =>
      match state.outstanding[index]? with
      | none => none
      | some callback =>
          some (runCallback config
            { state with outstanding := state.outstanding.eraseIdx index } ok bytes callback)
  | .doorbell id producer => some (state.push [.processSq id (producer % 2 ^ 32) []])
  | .directWrite id offset data =>
      if data.length = 0 ∨ 8 < data.length ∨ 64 < offset + data.length then none
      else some (directWrite state id offset data)
  | .receive reply => some (receive state reply)
  | .setLinkState port up => some (setLinkState state port up)
  | .getTp localEid remoteEid => some (getTp config state localEid remoteEid)
  | .setTpActive id active => some (setTpActive state id active)
  | .removeTp id => some (removeTp state id)
  | .createJetty id context => some (createJetty state id context)

/-- The engine runs `count` activations. -/
def runs (count : Nat) : List Event := List.replicate count .run

/-- A TP route to another endpoint is set up and a Jetty created. -/
def opening (id : Nat) (shift : Fin 16) : List Event :=
  [.getTp 0x100 0x200, .setTpActive 1 true, .createJetty id (.small shift)]

def step (config : Config) (state : State) : Event → Option State
  | .run =>
      match state.stack with
      | [] => none
      | task :: rest => some (exec config { state with stack := rest } task)
  | event => if state.atBoundary then environment config state event else none

end Udma.Sq
