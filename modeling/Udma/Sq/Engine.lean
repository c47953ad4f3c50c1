import Udma.Arithmetic.Sequence
import Udma.Collections.MarkFirst
import Udma.Sq.State

/-!
# The send-queue functions

One definition for each function of `udma_sq.cc`.  A function runs up to its
first call that may re-enter the engine; what is left of it is pushed on the
stack as a `Task`.  A loop is a task that pushes itself again.
-/

namespace Udma.Sq

open Udma.Abi Udma.Arithmetic Udma.Collections

namespace State

@[simps]
def setJetty (state : State) (id : Nat) (jetty : Jetty) : State :=
  { state with jetty := fun other => if other = id then some jetty else state.jetty other }

/-- Code to run, first task first, before the present top of the stack. -/
@[simps]
def push (state : State) (tasks : List Task) : State :=
  { state with stack := tasks ++ state.stack }

/-- Enter a host, network or completion-engine function with a callback. -/
@[simps]
def call (state : State) (callback : Callback) : State :=
  { state with
    outstanding := state.outstanding ++ [callback]
    stack := .external :: state.stack }

@[simps]
def emit (state : State) (observations : List Observation) : State :=
  { state with trace := state.trace ++ observations }

/-- Record an RMA request under the next request number. -/
@[simps]
def addPending (state : State) (pending : PendingRma) : State :=
  { state with
    pendingRma := state.pendingRma ++ [pending]
    nextRmaRequest := state.nextRmaRequest + 1 }

/-- Hand a request frame to the network, with its send callback. -/
@[simps!]
def send (state : State) (id position : Nat) (frame : Frame) (callback : Callback) : State :=
  ({ state with nextSequence := state.nextSequence + 1 }.emit
    [.sent id position frame]).call callback

end State

/-- The signed merge of a producer value into `target_producer`. -/
def QueueContext.mergeProducer (context : QueueContext) (producer : Nat) : QueueContext :=
  if ahead32 producer context.targetProducer then
    { context with targetProducer := producer }
  else context

/-- Ring index of the last block of a descriptor at `issue`. -/
def completedIndex (issue wqebbs depth : Nat) : Nat :=
  ((issue + wqebbs - 1) &&& (depth - 1)) % 2 ^ 16

def findRoute (routes : List TpRoute) (tpn : Nat) : Option TpRoute :=
  routes.find? (fun route => route.id == tpn)

/-- The route check: the route exists, is active and its port's link is up. -/
def routeUp (linkUp : List Bool) (route : TpRoute) : Bool :=
  route.active && linkUp.getD route.port false

/-! ## Issue -/

def processSq (state : State) (id producer : Nat) (direct : Bytes) : State :=
  match state.jetty id with
  | none => state
  | some jetty =>
      let merged := jetty.context.mergeProducer producer
      let context :=
        if direct.length = wqebbBytes then
          { merged with directWqe := direct, directPending := true }
        else merged
      let pipe := { jetty.pipe with kick := true }
      if pipe.dispatching then
        state.setJetty id ⟨context, some pipe⟩
      else
        (state.setJetty id ⟨context, some { pipe with dispatching := true }⟩).push
          [.processSqLoop id producer .check]

/-- `ProcessSq(id, queue.target_producer)`. -/
def resumeSq (state : State) (id : Nat) : State :=
  match state.jetty id with
  | none => state
  | some jetty => processSq state id jetty.context.targetProducer []

def processSqOnce (config : Config) (state : State) (id producer : Nat) : State :=
  match state.jetty id with
  | none => state
  | some jetty =>
      let context := jetty.context.mergeProducer producer
      let pipe := jetty.pipe
      let again := Task.processSqLoop id producer .check
      if pipe.fetching || pipe.ordered || pipe.prefetchFailed ||
          decide (config.writePayloadReadWindow ≤ pipe.preparedWrites.length) then
        (state.setJetty id ⟨context, some pipe⟩).push [again]
      else if pipe.issue % 2 ^ 32 = context.targetProducer then
        (state.setJetty id ⟨{ context with directPending := false }, some pipe⟩).push [again]
      else if context.depth = 0 ∨
          context.depth < sub32 context.targetProducer context.consumer then
        (state.setJetty id ⟨context, some pipe⟩).push [again]
      else if context.directPending ∧
          (pipe.issue + 1) % 2 ^ 32 = context.targetProducer then
        (state.setJetty id ⟨{ context with busy := true, directPending := false },
          some { pipe with fetching := true }⟩).push
            [.handleSqWqe id context.directWqe, again]
      else
        (state.setJetty id ⟨context,
          some { pipe with nextFetch := max pipe.nextFetch pipe.issue }⟩).push
            [.processSqLoop id producer (.fill context.targetProducer)]

/-- The loop of `ProcessSq`. -/
def processSqLoop (config : Config) (state : State) (id producer : Nat) : State :=
  match state.jetty id with
  | none => state
  | some jetty =>
      let pipe := jetty.pipe
      if pipe.kick then
        processSqOnce config
          (state.setJetty id ⟨jetty.context, some { pipe with kick := false }⟩) id producer
      else
        state.setJetty id ⟨jetty.context, some { pipe with dispatching := false }⟩

/-- Number of blocks the next prefetch burst reads. -/
def prefetchCount (config : Config) (context : QueueContext) (pipe : SqPipeline) : Nat :=
  min (min (sub32 context.targetProducer pipe.nextFetch) config.sqFetchBurstWqebbs)
    (min (context.depth - (pipe.nextFetch &&& (context.depth - 1)))
      (config.sqPrefetchWqebbs - pipe.cache.length))

/-- One iteration of the loop of `FillSqCache`. -/
def fillSqCache (config : Config) (state : State) (id producer targetProducer : Nat) :
    State :=
  match state.jetty id with
  | none => state
  | some jetty =>
      let context := jetty.context
      let pipe := jetty.pipe
      let available := sub32 context.targetProducer pipe.nextFetch
      let stopped := state.push [.processSqLoop id producer (.head targetProducer)]
      if pipe.prefetchFailed ∨ config.sqFetchMaxOutstanding ≤ pipe.prefetchInflight ∨
          config.sqPrefetchWqebbs ≤ pipe.cache.length then stopped
      else if available = 0 ∨ context.depth < available then stopped
      else if config.sqPrefetchWqebbs - pipe.cache.length < config.sqFetchBurstWqebbs ∧
          config.sqFetchBurstWqebbs ≤ available ∧
          (pipe.cache.find pipe.issue).isSome then stopped
      else
        let start := pipe.nextFetch
        let count := prefetchCount config context pipe
        let address := context.queueIova + (start &&& (context.depth - 1)) * wqebbBytes
        (((state.setJetty id ⟨{ context with busy := true }, some { pipe with
            cache := pipe.cache ++ (List.range count).map fun i => (start + i, [])
            nextFetch := pipe.nextFetch + count
            prefetchInflight := pipe.prefetchInflight + 1 }⟩).emit
          [.dmaRead id context.token address (count * wqebbBytes)]).push
            [.processSqLoop id producer (.fill targetProducer)]).call
              (.prefetch id start count)

/-- The cached blocks of `count` consecutive positions, if all have arrived. -/
def Cache.blocks (cache : Cache) (position : Nat) : Nat → Option Bytes
  | 0 => some []
  | count + 1 =>
      match cache.find position with
      | none => none
      | some block =>
          if block.isEmpty then none
          else (Cache.blocks cache (position + 1) count).map (block ++ ·)

/-- The part of `ProcessSqOnce` after `FillSqCache`. -/
def executeSqHead (config : Config) (state : State) (id producer targetProducer : Nat) :
    State :=
  match state.jetty id with
  | none => state
  | some jetty =>
      let context := jetty.context
      let pipe := jetty.pipe
      let again := Task.processSqLoop id producer .check
      if pipe.prefetchFailed then state.push [again]
      else
        match pipe.cache.find pipe.issue with
        | none => state.push [again]
        | some head =>
            let wqebbs := SqWqe.wqebbCount head
            if head.isEmpty then state.push [again]
            else if wqebbs = 0 ∨ sub32 targetProducer pipe.issue < wqebbs ∨
                context.depth < wqebbs then
              (state.setJetty id ⟨context, some { pipe with prefetchFailed := true }⟩).push
                [again]
            else if wqebbs ≤ config.sqPrefetchWqebbs then
              match pipe.cache.blocks (pipe.issue + 1) (wqebbs - 1) with
              | none => state.push [again]
              | some rest =>
                  (state.setJetty id ⟨{ context with busy := true },
                    some { pipe with fetching := true }⟩).push
                      [.handleSqWqe id (head ++ rest), again]
            else
              (state.setJetty id ⟨{ context with busy := true },
                some { pipe with fetching := true }⟩).push
                  [.continueSqWqe id head (wqebbs - 1)
                    ((pipe.issue + 1) &&& (context.depth - 1)), again]

def continueSqWqe (state : State) (id : Nat) (raw : Bytes)
    (remaining nextSlot : Nat) : State :=
  if remaining = 0 then state.push [.handleSqWqe id raw]
  else
    match state.jetty id with
    | none => state
    | some jetty =>
        let contiguous := min remaining (jetty.context.depth - nextSlot)
        let address := jetty.context.queueIova + nextSlot * wqebbBytes
        (state.emit [.dmaRead id jetty.context.token address (contiguous * wqebbBytes)]).call
          (.continuation id raw remaining nextSlot contiguous)

/-! ## The fetch lock -/

/-- `ReleaseSqFetch` without resumption. -/
def Jetty.release (jetty : Jetty) : Jetty :=
  let pipe := { jetty.pipe with fetching := false }
  ⟨{ jetty.context with
      busy := decide (pipe.prefetchInflight ≠ 0) || !pipe.completions.isEmpty }, some pipe⟩

/-- Mark the pipeline failed and release the fetch. -/
def Jetty.fail (jetty : Jetty) : Jetty :=
  Jetty.release ⟨jetty.context, some { jetty.pipe with prefetchFailed := true }⟩

/-- `ReleaseSqFetch(id, true)`. -/
def releaseSqFetch (state : State) (id : Nat) : State :=
  match state.jetty id with
  | none => state
  | some jetty =>
      (state.setJetty id jetty.release).push
        [.processSq id jetty.context.targetProducer []]

/-- Append an entry, drop the cached blocks, advance `issue`. -/
def SqPipeline.reserve (pipe : SqPipeline) (depth : Nat) (request : SqRequest) :
    SqPipeline :=
  { pipe with
    completions := pipe.completions ++
      [{ wqebbs := request.wqebbs
         index := Sq.completedIndex pipe.issue request.wqebbs depth
         request := request }]
    cache := pipe.cache.filter fun entry =>
      !(decide (pipe.issue ≤ entry.1) && decide (entry.1 < pipe.issue + request.wqebbs))
    issue := pipe.issue + request.wqebbs
    ordered := request.ordered }

/-- `ReserveSq`, on the pipeline `pipe` of `jetty`. -/
def reserveSq (state : State) (id : Nat) (jetty : Jetty) (pipe : SqPipeline)
    (request : SqRequest) : State :=
  (state.setJetty id ⟨jetty.context,
    some (pipe.reserve jetty.context.depth request)⟩).emit [.reserved id request]

/-! ## Execution of one descriptor -/

/-- The request a descriptor at `issue` stands for, once its payload size is
known.  A READ reports no immediate. -/
def SqRequest.ofWqe (raw : Bytes) (issue depth byteCount : Nat) : SqRequest :=
  { position := issue
    ordered := SqWqe.ordered raw
    wqebbs := SqWqe.wqebbCount raw
    completedIndex := Sq.completedIndex issue (SqWqe.wqebbCount raw) depth
    opcode := SqWqe.opcode raw
    byteCount := byteCount
    immediate := if SqWqe.opcode raw = 6 then 0 else SqWqe.immediate raw
    completion := SqWqe.completion raw }

/-- The frame fields that do not depend on the operation. -/
def requestFrame (config : Config) (state : State) (context : QueueContext)
    (id : Nat) (route : TpRoute) (raw : Bytes) (operation : Operation) : Frame :=
  { sequence := state.nextSequence
    sourceEid := config.endpointEid + context.eidIndex * 0x10000
    destinationEid := route.remoteEid
    sourcePort := route.port % 2 ^ 16
    operation := operation
    orderType := SqWqe.placeOrder raw
    sourceJetty := id
    destinationJetty := SqWqe.remoteJetty raw
    tpn := SqWqe.tpn raw
    segment := SqWqe.remoteSegment raw
    remoteAddress := SqWqe.remoteAddress raw }

/-- The READ branch of `HandleSqWqe`. -/
def issueRead (config : Config) (state : State) (id : Nat) (jetty : Jetty)
    (route : TpRoute) (raw : Bytes) : State :=
  let sge := SqWqe.firstSge raw
  if SqWqe.inlinePayload raw ∨ SqWqe.sgeCount raw ≠ 1 then
    state.setJetty id jetty.fail
  else if sge.address = 0 ∨ sge.length = 0 ∨ SqWqe.remoteAddress raw = 0 then
    state.setJetty id jetty.fail
  else
    let pipe := jetty.pipe
    let request := SqRequest.ofWqe raw pipe.issue jetty.context.depth sge.length
    let frame := { requestFrame config state jetty.context id route raw .readRequest with
      requestId := state.nextRmaRequest
      transferLength := sge.length }
    let pending : PendingRma :=
      { requestId := state.nextRmaRequest
        jettyId := id
        request := request
        localToken := jetty.context.payloadToken
        localAddress := sge.address }
    ((reserveSq state id jetty pipe request).addPending pending).push
      [.releaseSqFetch id] |>.send id pipe.issue frame (.readSent state.nextRmaRequest)

/-- The non-inline WRITE branch: reserve, then read the payload. -/
def prepareWrite (state : State) (id : Nat) (jetty : Jetty) (raw : Bytes) : State :=
  let sge := SqWqe.firstSge raw
  let pipe := jetty.pipe
  let request := SqRequest.ofWqe raw pipe.issue jetty.context.depth sge.length
  let prepared := { pipe with
    preparedWrites := pipe.preparedWrites ++ [({ request := request, raw := raw } : PreparedWrite)] }
  (((reserveSq state id jetty prepared request).emit
    [.dmaRead id jetty.context.payloadToken sge.address sge.length]).push
      [.releaseSqFetch id]).call (.writePayload id pipe.issue sge.length)

/-- A SEND longer than one transport message completes with a length error. -/
def rejectSend (state : State) (id : Nat) (jetty : Jetty) (raw : Bytes)
    (length : Nat) : State :=
  let pipe := jetty.pipe
  let request := SqRequest.ofWqe raw pipe.issue jetty.context.depth length
  (reserveSq state id jetty pipe request).push
    [.completeSq id request 2 1, .releaseSqFetch id]

/-- Payload length a SEND descriptor announces, when it has at most one piece. -/
def sendLength (raw : Bytes) : Nat :=
  if SqWqe.inlinePayload raw then SqWqe.inlineLength raw else (SqWqe.firstSge raw).length

/-- The part of `HandleSqWqe` behind the ordering, window and route checks. -/
def issueWqe (config : Config) (state : State) (id : Nat) (jetty : Jetty)
    (route : TpRoute) (raw : Bytes) : State :=
  let sge := SqWqe.firstSge raw
  if SqWqe.opcode raw = 6 then issueRead config state id jetty route raw
  else if (SqWqe.opcode raw = 0 ∨ SqWqe.opcode raw = 1) ∧
      (SqWqe.inlinePayload raw ∨ SqWqe.sgeCount raw = 1) ∧ 4096 < sendLength raw then
    rejectSend state id jetty raw (sendLength raw)
  else if SqWqe.inlinePayload raw then
    if raw.length - 48 < SqWqe.inlineLength raw then state.setJetty id jetty.fail
    else state.push
      [.submitSqPayload id raw ((raw.drop 48).take (SqWqe.inlineLength raw)) none]
  else if SqWqe.sgeCount raw ≠ 1 then state.setJetty id jetty.fail
  else if sge.address = 0 ∨ sge.length = 0 then state.setJetty id jetty.fail
  else if SqWqe.opcode raw = 3 then prepareWrite state id jetty raw
  else
    (state.emit [.dmaRead id jetty.context.payloadToken sge.address sge.length]).call
      (.sendPayload id raw sge.length)

/-- The header check of `HandleSqWqe`. -/
def headerValid (raw : Bytes) (issue depth : Nat) : Bool :=
  SqWqe.owner raw == ((issue / depth) &&& 1 == 0) &&
    raw.length == SqWqe.wqebbCount raw * wqebbBytes &&
    (SqWqe.opcode raw == 0 || SqWqe.opcode raw == 1 || SqWqe.opcode raw == 3 ||
      SqWqe.opcode raw == 6)

/-- A READ that the outstanding-request window holds back. -/
def readWindowFull (config : Config) (state : State) (raw : Bytes) : Bool :=
  SqWqe.opcode raw == 6 && config.maxReadOutstanding != 0 &&
    decide (config.maxReadOutstanding ≤ state.pendingRma.length)

def handleSqWqe (config : Config) (before : State) (id : Nat) (raw : Bytes) : State :=
  match before.jetty id with
  | none => before
  | some jetty =>
      let pipe := jetty.pipe
      let state := before.emit [.executed id pipe.issue raw]
      if raw.length < wqebbBytes then state.setJetty id jetty.fail
      else if pipe.prefetchFailed then state.setJetty id jetty.release
      else if !headerValid raw pipe.issue jetty.context.depth then
        state.setJetty id jetty.fail
      else if pipe.preparedWrites ≠ [] ∧
          (SqWqe.opcode raw ≠ 3 ∨ SqWqe.inlinePayload raw) then
        state.setJetty id jetty.release
      else if SqWqe.ordered raw ∧ pipe.completions ≠ [] then
        state.setJetty id jetty.release
      else if readWindowFull config state raw then
        state.setJetty id jetty.release
      else
        match findRoute state.tpRoutes (SqWqe.tpn raw) with
        | none => state.setJetty id jetty.fail
        | some route =>
            if routeUp state.linkUp route then issueWqe config state id jetty route raw
            else state.setJetty id jetty.fail

/-- One iteration of the loop of `DrainPreparedWrites`, and what follows it. -/
def drainPreparedWrites (state : State) (id : Nat) : State :=
  match state.jetty id with
  | none => state
  | some jetty =>
      let pipe := jetty.pipe
      match pipe.preparedWrites with
      | [] => state.push [.processSq id jetty.context.targetProducer []]
      | front :: rest =>
          if front.ready then
            let popped := state.setJetty id
              ⟨jetty.context, some { pipe with preparedWrites := rest }⟩
            if front.failed then
              popped.push [.completeSq id front.request 2 0, .drainPreparedWrites id]
            else
              popped.push [.submitSqPayload id front.raw front.payload (some front.request),
                .drainPreparedWrites id]
          else state.push [.processSq id jetty.context.targetProducer []]

def payloadOperation (raw : Bytes) : Operation :=
  if SqWqe.opcode raw = 0 then .send
  else if SqWqe.opcode raw = 1 then .sendImmediate
  else .write

/-- `SubmitSqPayload`; `reserved` is the entry a drained WRITE already has. -/
def submitSqPayload (config : Config) (state : State) (id : Nat) (raw payload : Bytes)
    (reserved : Option SqRequest) : State :=
  match state.jetty id with
  | none => state
  | some jetty =>
      let pipe := jetty.pipe
      if reserved.isNone ∧ pipe.prefetchFailed then state.setJetty id jetty.release
      else if raw.length < wqebbBytes then state
      else
        match findRoute state.tpRoutes (SqWqe.tpn raw) with
        | none => state
        | some route =>
            let isWrite := decide (SqWqe.opcode raw = 3)
            let requestId := if isWrite then state.nextRmaRequest else 0
            let fresh := SqRequest.ofWqe raw pipe.issue jetty.context.depth payload.length
            let request :=
              match reserved with
              | none => fresh
              | some held => { fresh with
                  position := held.position, completedIndex := held.completedIndex }
            let frame := { requestFrame config state jetty.context id route raw
                (payloadOperation raw) with
              immediate := SqWqe.immediate raw
              requestId := requestId
              transferLength := if isWrite then payload.length else 0
              bytes := payload }
            let entered :=
              if reserved.isNone then
                (reserveSq state id jetty pipe request).push
                  [.releaseSqFetch id]
              else state
            let recorded :=
              if isWrite then
                entered.addPending
                  { requestId := requestId
                    jettyId := id
                    request := request
                    localToken := 0
                    localAddress := 0 }
              else entered
            recorded.send id request.position frame (.payloadSent id request requestId)

/-! ## Completion and retirement -/

/-- The entry `CompleteSq` writes over an open one. -/
def SqCompletion.complete (entry : SqCompletion) (request : SqRequest)
    (status substatus : Nat) : SqCompletion :=
  { wqebbs := request.wqebbs
    index := request.completedIndex
    opcode := request.opcode
    bytes := request.byteCount
    immediate := request.immediate
    enabled := request.completion
    ready := true
    status := status
    substatus := substatus
    request := entry.request }

def completeSq (before : State) (id : Nat) (request : SqRequest)
    (status substatus : Nat) : State :=
  let state := before.emit [.completed id request status substatus]
  match before.jetty id with
  | none => state
  | some jetty =>
      let pipe := jetty.pipe
      let named := fun entry : SqCompletion => entry.index == request.completedIndex
      match pipe.completions.find? named with
      | none => state
      | some entry =>
          if entry.ready ∨ entry.wqebbs ≠ request.wqebbs then state
          else
            (state.setJetty id ⟨jetty.context, some { pipe with
              completions := markFirst named
                (fun open_ => open_.complete request status substatus)
                pipe.completions }⟩).push [.retireSq id]

/-- The entry of `RetireSq` and `RetireSqPipelined`. -/
def retireSq (config : Config) (state : State) (id : Nat) : State :=
  match state.jetty id with
  | none => state
  | some jetty =>
      let pipe := jetty.pipe
      let retiring := state.setJetty id ⟨jetty.context, some { pipe with retiring := true }⟩
      if config.pipelinedCompletionDma then
        if pipe.retiring ∨ pipe.publicationFailed then state
        else retiring.push [.retireSqPipelinedLoop id]
      else if pipe.retiring then state
      else retiring.push [.retireSqLoop id]

/-- The `WriteCqe` call for an entry. -/
def cqeCall (context : QueueContext) (id : Nat) (entry : SqCompletion) : CqeCall :=
  { jfc := context.completionQueue
    jetty := context.isJetty
    opcode := entry.opcode
    entryIndex := entry.index
    localId := id
    byteCount := entry.bytes
    userData := context.userQueue
    immediate := entry.immediate
    status := entry.status
    substatus := entry.substatus }

/-- Hand an entry to the completion engine, or finish it at once when it asks
for no completion; `finish` and `again` are the callback and the loop. -/
def publishSq (state : State) (id : Nat) (context : QueueContext) (entry : SqCompletion)
    (finish again : Task) : State :=
  if entry.enabled then
    ((state.emit [.submitted id entry.request.position (cqeCall context id entry)]).push
      [again]).call (.cqe id entry)
  else state.push [finish, again]

/-- One iteration of the loop of `RetireSq`. -/
def retireSqLoop (state : State) (id : Nat) : State :=
  match state.jetty id with
  | none => state
  | some jetty =>
      let pipe := jetty.pipe
      match pipe.completions with
      | [] => state.setJetty id ⟨jetty.context, some { pipe with retiring := false }⟩
      | front :: _ =>
          if !pipe.publishing && front.ready then
            publishSq (state.setJetty id ⟨jetty.context, some { pipe with publishing := true }⟩)
              id jetty.context front (.finishSq id front true) (.retireSqLoop id)
          else
            state.setJetty id ⟨jetty.context, some { pipe with retiring := false }⟩

def SqPipeline.busyNow (pipe : SqPipeline) : Bool :=
  pipe.fetching || decide (pipe.prefetchInflight ≠ 0) || !pipe.completions.isEmpty

/-- The `finish` closure of `RetireSq`. -/
def finishSq (state : State) (id : Nat) (entry : SqCompletion) (ok : Bool) : State :=
  match state.jetty id with
  | none => state
  | some jetty =>
      if ok then
        let pipe := jetty.pipe
        let popped := { pipe with
          completions := pipe.completions.tail
          publishing := false
          ordered := pipe.ordered && !pipe.completions.tail.isEmpty }
        let retired := (pipe.completions.take 1).map fun front =>
          Observation.retired id front.request
        ((state.emit retired).setJetty id
          ⟨{ jetty.context with
              consumer := jetty.context.consumer + entry.wqebbs
              busy := popped.busyNow }, some popped⟩).push
            [.retireSq id, .processSq id jetty.context.targetProducer []]
      else state

/-- One iteration of the loop of `RetireSqPipelined`. -/
def retireSqPipelinedLoop (config : Config) (state : State) (id : Nat) : State :=
  match state.jetty id with
  | none => state
  | some jetty =>
      let pipe := jetty.pipe
      let stopped := state.setJetty id ⟨jetty.context, some { pipe with retiring := false }⟩
      let unstarted := fun entry : SqCompletion => !(entry.ready && entry.publicationStarted)
      if pipe.publicationFailed ∨ config.completionEventSlots ≤ pipe.publicationsInFlight then
        stopped
      else
        match pipe.completions.find? unstarted with
        | none => stopped
        | some next =>
            if next.ready then
              let entry := { next with publicationStarted := true }
              publishSq (state.setJetty id ⟨jetty.context, some { pipe with
                  completions := markFirst unstarted
                    (fun found => { found with publicationStarted := true })
                    pipe.completions
                  publicationsInFlight := pipe.publicationsInFlight + 1
                  publishing := true }⟩)
                id jetty.context entry (.finishSqPipelined id entry true)
                (.retireSqPipelinedLoop id)
            else stopped

/-- The `finish` closure of `RetireSqPipelined`. -/
def finishSqPipelined (state : State) (id : Nat) (entry : SqCompletion) (ok : Bool) : State :=
  match state.jetty id with
  | none => state
  | some jetty =>
      let pipe := { jetty.pipe with
        publicationsInFlight := jetty.pipe.publicationsInFlight - 1 }
      let broken := state.setJetty id ⟨jetty.context, some { pipe with
        publicationFailed := true, prefetchFailed := true }⟩
      let named := fun candidate : SqCompletion => candidate.index == entry.index
      if ok then
        match pipe.completions.find? named with
        | none => broken
        | some current =>
            if current.publicationStarted ∧ ¬ current.publicationDone then
              let marked := markFirst named
                (fun found => { found with publicationDone := true }) pipe.completions
              let done := marked.takeWhile (·.publicationDone)
              let rest := marked.dropWhile (·.publicationDone)
              let popped := { pipe with
                completions := rest
                publishing := decide (pipe.publicationsInFlight ≠ 0)
                ordered := pipe.ordered && !rest.isEmpty }
              let retired := done.map fun front => Observation.retired id front.request
              ((state.emit retired).setJetty id
                ⟨{ jetty.context with
                    consumer := jetty.context.consumer + (done.map SqCompletion.wqebbs).sum
                    busy := popped.busyNow }, some popped⟩).push
                  [.retireSq id, .resumeSq id]
            else broken
      else broken

/-! ## The interpreter -/

/-- Run the code of one activation. -/
def exec (config : Config) (state : State) : Task → State
  | .external => state
  | .processSq id producer direct => processSq state id producer direct
  | .resumeSq id => resumeSq state id
  | .processSqLoop id producer .check => processSqLoop config state id producer
  | .processSqLoop id producer (.fill targetProducer) =>
      fillSqCache config state id producer targetProducer
  | .processSqLoop id producer (.head targetProducer) =>
      executeSqHead config state id producer targetProducer
  | .continueSqWqe id raw remaining nextSlot =>
      continueSqWqe state id raw remaining nextSlot
  | .handleSqWqe id raw => handleSqWqe config state id raw
  | .drainPreparedWrites id => drainPreparedWrites state id
  | .submitSqPayload id raw payload reserved =>
      submitSqPayload config state id raw payload reserved
  | .releaseSqFetch id => releaseSqFetch state id
  | .completeSq id request status substatus => completeSq state id request status substatus
  | .retireSq id => retireSq config state id
  | .retireSqLoop id => retireSqLoop state id
  | .retireSqPipelinedLoop id => retireSqPipelinedLoop config state id
  | .finishSq id entry ok => finishSq state id entry ok
  | .finishSqPipelined id entry ok => finishSqPipelined state id entry ok

end Udma.Sq
