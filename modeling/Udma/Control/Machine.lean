import Udma.Arithmetic.Sequence
import Udma.Control.Responses

/-!
# The control engine

One definition for each function of `udma_control.cc` that takes part in a command
chain, with the mailbox commands of `udma_resources.cc`, and the writes to the two
register blocks in `WriteMmio`.  A function runs up to its next host call; what
the source keeps in a closure is kept in the callback.
-/

namespace Udma.Control

open Udma.Abi Udma.Arithmetic

namespace State

@[simps]
def push (state : State) (tasks : List Task) : State :=
  { state with stack := tasks ++ state.stack }

/-- Enter a host function with a callback. -/
@[simps]
def call (state : State) (callback : Callback) : State :=
  { state with
    outstanding := state.outstanding ++ [callback]
    stack := .external :: state.stack }

@[simps]
def emit (state : State) (observations : List Observation) : State :=
  { state with trace := state.trace ++ observations }

/-- A modulo by zero. -/
@[simps]
def crash (state : State) : State := { state with crashed := true }

/-- `FailUbase`, and the end of the work: the command queue is free. -/
@[simps]
def release (state : State) : State := { state with ubaseBusy := false }

/-- The command at the head of the ring puts the device into another state. -/
def change (state : State) (device : Device) : State :=
  { state with device := device }.emit
    (if device.contexts.entries = state.device.contexts.entries ∧
        device.tpRoutes = state.device.tpRoutes then []
      else [.changed state.serial])

/-! The registers of the command ring, `0x00` to `0x17`, and of the response ring. -/

def csqBase (state : State) : Nat := state.ubase 0 ||| (state.ubase 1 <<< 32)
def csqDepth (state : State) : Nat := (state.ubase 2 <<< 3) % 2 ^ 32
def csqHead (state : State) : Nat := state.ubase 5
def crqBase (state : State) : Nat := state.ubase 6 ||| (state.ubase 7 <<< 32)
def crqDepth (state : State) : Nat := (state.ubase 8 <<< 3) % 2 ^ 32
def crqTail (state : State) : Nat := state.ubase 9

end State

/-- The address of a 32-byte descriptor. -/
def descriptorAddress (base slot : Nat) : Nat := (base + slot * 32) % 2 ^ 64

/-- The slot `steps` behind `slot`. -/
def slotAfter (slot steps depth : Nat) : Nat := ((slot + steps) % 2 ^ 32) % depth

/-! ## The command ring -/

def processNextUbase (state : State) : State :=
  if state.csqDepth = 0 then state.release
  else if state.csqHead % state.csqDepth = state.ubaseTargetProducer % state.csqDepth then
    state.release
  else if state.csqBase = 0 then state.release
  else
    (state.emit [.fetched state.serial
      (descriptorAddress state.csqBase (state.csqHead % state.csqDepth))]).call
        .descriptorFetched

/-- The code that `FinishUbaseDescriptor` was asked to run after the write-back. -/
def After.tasks : After → List Task
  | .nothing => []
  | .ctrlqResponse event => [.emitCtrlqResponse event]
  | .mailboxEvent sequence => [.emitMailboxEvent sequence]

/-- The chain `issue` of `FinishUbaseDescriptor`. -/
def issueRecord (state : State) (writeBack : WriteBack) : State :=
  match writeBack.writes with
  | [] =>
      { state with
        ubase := (state.ubase.store 5
            (slotAfter writeBack.head writeBack.count writeBack.depth)).store 4
          (state.ubaseTargetProducer % writeBack.depth)
        serial := state.serial + 1 }.push (writeBack.after.tasks ++ [Task.processNextUbase])
  | (address, bytes) :: rest =>
      (state.emit [.csqDma address bytes]).call (.recordWritten { writeBack with writes := rest })

/-- The first descriptor with the start of the response, the status and the mark of the
device. -/
def answeredDescriptor (descriptor : Bytes) (opcode status : Nat) (response : Bytes) : Bytes :=
  let filled := patch descriptor (8, response.take 24)
  let marked := [(2, [UInt8.ofNat (byteAt descriptor 2 ||| 2)]), (4, store16 status)].foldl patch
    filled
  if opcode = 0x0001 then patch marked (8, store32 0x01000000)
  else if opcode = 0x7001 then patch marked (8, store32 1)
  else marked

/-- The rest of the response, in the further descriptors of the command. -/
def continuationWrites (base head depth : Nat) : Nat → Nat → Bytes → List (Nat × Bytes)
  | 0, _, _ => []
  | _ + 1, _, [] => []
  | left + 1, index, response =>
      (descriptorAddress base (slotAfter head index depth),
          response.take 32 ++ List.replicate (32 - response.length) 0) ::
        continuationWrites base head depth left (index + 1) (response.drop 32)

def finishUbaseDescriptor (state : State) (job : Job) (opcode : Nat) (response : Bytes)
    (after : After) (status : Nat) : State :=
  if state.csqDepth = 0 then state.crash
  else
    let head := state.csqHead % state.csqDepth
    issueRecord state
      { writes :=
          continuationWrites state.csqBase head state.csqDepth (job.count - 1) 1
            (response.drop 24) ++
          [(descriptorAddress state.csqBase head,
            answeredDescriptor job.descriptor opcode status response)]
        head := head
        count := job.count
        depth := state.csqDepth
        after := after }

def rejectUbase (state : State) (job : Job) (status : Nat) : State :=
  finishUbaseDescriptor state job (load16 job.descriptor 0) [] .nothing status

/-! ## Mailbox commands -/

/-- `ApplyUbaseMailbox`; `context` is what was read for the command. -/
def applyUbaseMailbox (state : State) (job : Job) (context : Bytes) : State :=
  match job.mailbox with
  | .create kind =>
      if acceptable kind job.tag context then
        finishUbaseDescriptor (state.change (state.device.install kind job.tag context)) job 0x7000
          [] job.mailboxEvent 0
      else rejectUbase state job 22
  | .modifyJfc =>
      match state.device.contexts.lookup (.jfc, job.tag) with
      | none => rejectUbase state job 2
      | some old =>
          finishUbaseDescriptor
            (state.change { state.device with
              contexts := state.device.contexts.insert (.jfc, job.tag) (modifyJfc old context) })
            job 0x7000 [] job.mailboxEvent 0
  | _ => finishUbaseDescriptor state job 0x7000 [] job.mailboxEvent 0

/-- The checks on a create command before its context is read. -/
def createStatus (config : Config) (state : State) (kind : Kind) (job : Job) : Nat :=
  if kind = .aeq ∧ job.tag ≠ 0 then 95
  else if (kind = .aeq ∨ kind = .ceq) ∧ state.busy kind job.tag then 16
  else if job.contextIova = 0 then 22
  else if (kind = .jetty ∨ kind = .jfc ∨ kind = .jfr) ∧
      (state.device.contexts.lookup (kind, job.tag)).isSome then 17
  else if kind = .jetty ∧ config.maxJettys ≤ state.device.count .jetty then 28
  else 0

/-- `HandleUbaseMailbox`.  A destroy command keeps the command ring until its resource is
no longer busy. -/
def handleUbaseMailbox (config : Config) (state : State) (job : Job) : State :=
  match job.mailbox with
  | .create kind =>
      if createStatus config state kind job = 0 then state.call (.contextRead job)
      else rejectUbase state job (createStatus config state kind job)
  | .destroy kind =>
      if kind = .aeq ∧ job.tag ≠ 0 then rejectUbase state job 95
      else if state.busy kind job.tag then { state with pendingDestroy := some job }
      else applyUbaseMailbox (state.change (state.device.erase kind job.tag)) job []
  | .queryJetty =>
      if job.contextIova = 0 then rejectUbase state job 22
      else if (state.device.contexts.lookup (.jetty, job.tag)).isNone then rejectUbase state job 2
      else state.call (.queryWritten job)
  | .queryJfc =>
      if job.contextIova = 0 then rejectUbase state job 22
      else if job.tag ∉ state.device.jfcQueryContexts then rejectUbase state job 2
      else if (state.device.contexts.lookup (.jfc, job.tag)).isSome then
        state.call (.queryRead job)
      else state.call (.queryWritten job)
  | .modifyJfc =>
      if job.contextIova = 0 then rejectUbase state job 22 else state.call (.contextRead job)
  | .other => applyUbaseMailbox state job []

/-- `MaybeCompleteEqDestroy` and its two siblings. -/
def completeDestroy (config : Config) (state : State) : State :=
  match state.pendingDestroy with
  | none => state
  | some job => handleUbaseMailbox config { state with pendingDestroy := none } job

/-! ## CtrlQ commands -/

def applyCtrlq (config : Config) (state : State) (job : Job) (request : Bytes) : State :=
  let built := buildCtrlqResponse config state.device state.linkUp state.pendingRma
    state.crqDepth request
  match built.2 with
  | .error status => rejectUbase (state.change built.1) job status
  | .ok event =>
      finishUbaseDescriptor (state.change built.1) job 0xf00e [] (.ctrlqResponse event) 0

/-- The chain `read_next` of `HandleCtrlq`. -/
def readContinuation (config : Config) (state : State) (gathering : Gathering) : State :=
  if gathering.job.count ≤ gathering.index then
    applyCtrlq config state gathering.job gathering.request
  else state.call (.continuationRead { gathering with index := gathering.index + 1 })

def handleCtrlq (config : Config) (state : State) (job : Job) : State :=
  if state.csqDepth = 0 then state.crash
  else readContinuation config state
    { job := job
      depth := state.csqDepth
      head := state.csqHead % state.csqDepth
      base := state.csqBase
      request := job.descriptor.drop 8
      index := 1 }

/-- The descriptor blocks of a response. -/
def responseBlocks (base depth count : Nat) : Nat → Nat → Bytes → List Block
  | 0, _, _ => []
  | left + 1, tail, event =>
      let lead : Bytes :=
        if left + 1 = count then
          [0x0e, 0xf0, 2, UInt8.ofNat count, 0, 0, 0, 0]
        else []
      let size := 32 - lead.length
      { slot := tail
        address := descriptorAddress base tail
        bytes := lead ++ event.take size ++ List.replicate (size - event.length) 0 } ::
          responseBlocks base depth count left (slotAfter tail 1 depth) (event.drop size)

/-- The chain `issue` of `EmitCtrlqResponse`. -/
def issueBlock (state : State) (emission : Emission) : State :=
  match emission.blocks with
  | [] =>
      ({ state with
          ubase := state.ubase.store 9 emission.tail
          ubaseCommandSource := state.ubaseCommandSource ||| 2 }.emit
        [.published emission.response emission.tail]).call .interruptRaised
  | block :: rest =>
      (state.emit [.crqDma emission.response block.slot block.address block.bytes]).call
        (.blockWritten { emission with blocks := rest })

/-- The number of descriptors of a response. -/
def responseCount (event : Bytes) : Nat := (event.length + 39) / 32

def emitCtrlqResponse (state : State) (event : Bytes) : State :=
  if state.crqBase = 0 ∨ state.crqDepth = 0 then state
  else
    let tail := state.crqTail % state.crqDepth
    issueBlock ({ state with responses := state.responses + 1 }.emit
        [.responding state.responses (responseCount event)])
      { response := state.responses
        blocks := responseBlocks state.crqBase state.crqDepth (responseCount event)
          (responseCount event) tail event
        tail := (slotAfter · 1 state.crqDepth)^[responseCount event] tail }

/-! ## Descriptors -/

def handleUbaseDescriptor (config : Config) (state : State) (descriptor : Bytes) : State :=
  if state.csqDepth = 0 then state.crash
  else
    let opcode := load16 descriptor 0
    let count := max 1 (byteAt descriptor 3)
    let depth := state.csqDepth
    let job : Job := ⟨descriptor, count⟩
    let pending := sub32 (state.ubaseTargetProducer % depth + depth) (state.csqHead % depth) % depth
    if pending < count then rejectUbase state ⟨descriptor, 1⟩ 22
    else if opcode = 0x4213 ∨ opcode = 0x4214 then rejectUbase state job 95
    else if opcode = 0x7000 then handleUbaseMailbox config state job
    else if opcode = 0xf00e then handleCtrlq config state job
    else
      let response := buildUbaseResponse config opcode
      -- The guest asks for the size of the response only.
      if byteAt descriptor 2 &&& (1 <<< 6) ≠ 0 then
        if response = [] then rejectUbase state job 95
        else finishUbaseDescriptor state job opcode [UInt8.ofNat ((response.length + 39) / 32)]
          .nothing 0
      else if 24 + (count - 1) * 32 < response.length then rejectUbase state job 90
      else finishUbaseDescriptor state job opcode response .nothing 0

def kickUbase (state : State) (producer : Nat) : State :=
  if state.ubaseBusy then { state with ubaseTargetProducer := producer }
  else processNextUbase { state with ubaseTargetProducer := producer, ubaseBusy := true }

/-! ## The message queue -/

def failUbios (state : State) : State := { state with ubiosBusy := false }

def processNextUbios (state : State) : State :=
  let depth := state.ubios 4
  if depth = 0 then failUbios state
  else if state.ubios 3 % depth = state.ubiosTargetProducer % depth then failUbios state
  else if state.ubios 0 ||| (state.ubios 1 <<< 32) = 0 then failUbios state
  else state.call .sqeFetched

def handleUbiosSqe (state : State) (sqe : Bytes) : State :=
  let base := state.ubios 0 ||| (state.ubios 1 <<< 32)
  if (load32 sqe 0 >>> 16) &&& 0xfff = 0 ∨ 2 ^ 64 - 1 - load32 sqe 8 < base then failUbios state
  else state.call (.payloadRead sqe)

def handleUbiosPayload (config : Config) (state : State) (sqe request : Bytes) : State :=
  let taskType := load32 sqe 0 &&& 3
  let opcode := (load32 sqe 0 >>> 8) &&& 0xff
  let known := { state with ubiosRequests := state.ubiosRequests ++ [request] }
  match config.buildUbiosResponse state.ubiosRequests taskType opcode request with
  | none => failUbios known
  | some (response, responseOpcode) =>
      let depth := state.ubios 4
      if depth = 0 then known.crash
      else known.call (.replyWritten
        { cqe := store32 (taskType ||| (responseOpcode <<< 8) ||| (response.length <<< 16)) ++
            store32 (load32 sqe 4 &&& 0xffff) ++ store32 (state.ubios 18 % depth) ++ store32 0
          completionBase := state.ubios 28 ||| (state.ubios 29 <<< 32)
          completionIndex := state.ubios 30 % depth
          receiveIndex := state.ubios 18 % depth
          depth := depth })

/-- The end of a message: the three indices move on. -/
def finishUbios (state : State) (reply : Reply) : State :=
  processNextUbios { state with
    ubios := ((state.ubios.store 18 (slotAfter reply.receiveIndex 1 reply.depth)).store 30
        (slotAfter reply.completionIndex 1 reply.depth)).store 3
      (slotAfter (state.ubios 3) 1 reply.depth) }

def kickUbios (state : State) (producer : Nat) : State :=
  if state.ubiosBusy then { state with ubiosTargetProducer := producer }
  else processNextUbios { state with ubiosTargetProducer := producer, ubiosBusy := true }

/-! ## Register writes -/

/-- The guest writes to the registers of the command queue. -/
def writeUbase (state : State) (offset length value : Nat) : State :=
  let written := { state with ubase := state.ubase.write offset length value }
  if offset = 0 ∧ length = 4 then { written with ubase := written.ubase.store 5 0 }
  else if offset = 0x10 ∧ length = 4 then kickUbase written (value % 2 ^ 32)
  else written

/-- The guest writes to the registers of the message queue. -/
def writeUbios (state : State) (offset length value : Nat) : State :=
  let written := { state with ubios := state.ubios.write offset length value }
  if offset = 0 ∧ length = 4 then
    { written with ubios := ((written.ubios.store 3 0).store 18 0).store 30 0 }
  else if offset = 0x08 ∧ length = 4 then kickUbios written (value % 2 ^ 32)
  else written

/-- A link goes up or down; the TP routes of a port that went down are bound to another. -/
def setLinkState (state : State) (port : Nat) (up : Bool) : State :=
  if state.linkUp.length ≤ port then state
  else
    let linkUp := state.linkUp.set port up
    if up then { state with linkUp := linkUp }
    else
      { state with
        linkUp := linkUp
        device := { state.device with
          tpRoutes := state.device.tpRoutes.map (·.rebind linkUp port) } }

/-! ## The step function -/

def runCallback (config : Config) (state : State) (ok : Bool) (bytes : Bytes) :
    Callback → State
  | .descriptorFetched =>
      if ok && bytes.length == 32 then handleUbaseDescriptor config state bytes else state.release
  | .continuationRead gathering =>
      if ok && bytes.length == 32 then
        readContinuation config state { gathering with request := gathering.request ++ bytes }
      else rejectUbase state gathering.job 5
  | .contextRead job =>
      if ok && bytes.length == job.mailbox.contextBytes then applyUbaseMailbox state job bytes
      else rejectUbase state job 5
  | .queryRead job =>
      if ok && bytes.length == 4 then state.call (.queryWritten job) else rejectUbase state job 5
  | .queryWritten job =>
      if ok then applyUbaseMailbox state job [] else rejectUbase state job 5
  | .recordWritten writeBack => if ok then issueRecord state writeBack else state.release
  | .blockWritten emission => if ok then issueBlock state emission else state
  | .interruptRaised => state
  | .sqeFetched =>
      if ok && bytes.length == 16 then handleUbiosSqe state bytes else failUbios state
  | .payloadRead sqe =>
      if ok then handleUbiosPayload config state sqe bytes else failUbios state
  | .replyWritten reply => if ok then state.call (.cqeWritten reply) else failUbios state
  | .cqeWritten reply => if ok then finishUbios state reply else failUbios state

inductive Event where
  /-- The engine runs the top of its stack. -/
  | run
  /-- The callback at `index` of the outstanding ones is called. -/
  | fire (index : Nat) (ok : Bool) (bytes : Bytes)
  | writeUbase (offset length value : Nat)
  | writeUbios (offset length value : Nat)
  /-- A resource that a destroy command waits for is no longer busy. -/
  | drained
  /-- The other engines change what a command may find. -/
  | setBusy (kind : Kind) (tag : Nat) (busy : Bool)
  | setLinkState (port : Nat) (up : Bool)
  | setPendingRma (pending : Bool)

/-- Nothing of the engine is running, or it waits for code outside to return. -/
def State.atBoundary (state : State) : Bool :=
  match state.stack with
  | [] => true
  | .external :: _ => true
  | _ => false

/-- What an outside party does at the boundary. -/
def environment (config : Config) (state : State) : Event → Option State
  | .run => none
  | .fire index ok bytes =>
      match state.outstanding[index]? with
      | none => none
      | some callback =>
          some (runCallback config
            { state with outstanding := state.outstanding.eraseIdx index } ok bytes callback)
  | .writeUbase offset length value =>
      if 0 < length ∧ length ≤ 8 ∧ offset + length ≤ 0x2c then
        some (writeUbase state offset length value)
      else none
  | .writeUbios offset length value =>
      if 0 < length ∧ length ≤ 8 ∧ offset + length ≤ 0x120 then
        some (writeUbios state offset length value)
      else none
  | .drained => some (completeDestroy config state)
  | .setBusy kind tag busy =>
      some { state with
        busy := fun other number =>
          if other = kind ∧ number = tag then busy else state.busy other number }
  | .setLinkState port up => some (setLinkState state port up)
  | .setPendingRma pending => some { state with pendingRma := pending }

def runTask (state : State) : Task → State
  | .external => state
  | .emitCtrlqResponse event => emitCtrlqResponse state event
  | .emitMailboxEvent sequence => (state.emit [.mailboxEvent sequence]).push [.external]
  | .processNextUbase => processNextUbase state

def step (config : Config) (state : State) (event : Event) : Option State :=
  if state.crashed then none
  else
    match event, state.stack with
    | .run, task :: rest => some (runTask { state with stack := rest } task)
    | .run, [] => none
    | _, _ => if state.atBoundary then environment config state event else none

end Udma.Control
