import Udma.Cq.Engine

/-!
# Mailbox commands, doorbells and the step function

The JFC and CEQ commands of `HandleUbaseMailbox` and `ApplyUbaseMailbox`, the two
doorbells and the clock, and what the host and the callers of `WriteCqe` can do
to the engine.  The command queue runs one command at a time: it fetches the next
descriptor after the write-back of the last one.
-/

namespace Udma.Cq

open Udma.Abi Udma.Arithmetic

/-! ## Busy resources -/

/-- A publication queue with work. -/
def PublicationQueue.active (queue : PublicationQueue) : Bool :=
  queue.running || queue.inFlight != 0 || !queue.pending.isEmpty

/-- A moderation timer is armed for CQEs that await a notification. -/
def Jfc.moderating (jfc : Jfc) : Bool :=
  jfc.pendingCompletions != 0 && jfc.moderationDeadline != 0

def State.jfcPublicationBusy (state : State) (id : Nat) : Bool :=
  (state.jfcs.lookup id).any Jfc.moderating ||
    (state.completionEventBusy && state.activeEventJfcId == id) ||
    state.completionEvents.any (fun event => event.jfcId == id) ||
    (state.jfcPublications.lookup id).any PublicationQueue.active

def State.ceqBusy (state : State) (ceqId : Nat) : Bool :=
  state.jfcCeqs.entries.any (fun mapping => mapping.2 == ceqId &&
      ((state.jfcPublications.lookup mapping.1).any PublicationQueue.active ||
        (state.jfcs.lookup mapping.1).any Jfc.moderating)) ||
    (state.completionEventBusy && state.activeCeqId == ceqId) ||
    state.completionEvents.any (fun event => event.ceqId == ceqId)

/-! ## Context images -/

/-- The 32-bit word at `index`. -/
def word (context : Bytes) (index : Nat) : Nat := load32 context (4 * index)

/-- The JFC context of a create command, if it is acceptable. -/
def decodeJfc (context : Bytes) (generation : Nat) : Option Jfc :=
  let queueIova := ((word context 1 <<< 20) ||| (word context 0 >>> 12)) <<< 12
  let indexIova := (((word context 7 &&& 0x03ffffff) <<< 32) ||| word context 6) <<< 6
  if queueIova = 0 ∨ indexIova = 0 then none
  else some
    { queueIova := queueIova
      indexIova := indexIova
      token := word context 2 &&& 0xfffff
      shift := Fin.ofNat 16 (word context 0 >>> 4)
      moderationCount := max 1 (word context 4 >>> 22)
      moderationPeriod := (word context 5 >>> 22) &&& 7
      generation := generation }

/-- The JFC context after a modify command, whose second half is the mask. -/
def Jfc.modify (jfc : Jfc) (context : Bytes) : Jfc :=
  { jfc with
    moderationCount :=
      if word context 36 &&& (0x3ff <<< 22) = 0 then max 1 (word context 4 >>> 22)
      else jfc.moderationCount
    moderationPeriod :=
      if word context 37 &&& (7 <<< 22) = 0 then (word context 5 >>> 22) &&& 7
      else jfc.moderationPeriod }

/-- The CEQ context of a create command, if it is acceptable. -/
def decodeCeq (tag : Nat) (context : Bytes) : Option Ceq :=
  let shift := word context 1 &&& 0x1f
  let iova := ((word context 3 <<< 20) ||| (word context 2 >>> 12)) <<< 12
  if bounded : shift < 18 then
    if iova = 0 ∨ 255 < tag then none
    else some { iova := iova, shift := ⟨shift, bounded⟩, vector := word context 6 &&& 0xffff }
  else none

/-- Replace the bits of `mask` in the word at `index`. -/
def setBits (image : Bytes) (index mask value : Nat) : Bytes :=
  image.take (4 * index) ++
    store32 ((word image index &&& (0xffffffff ^^^ mask)) ||| (value &&& mask)) ++
    image.drop (4 * index + 4)

def buildJfcQueryContext (config : Config) (state : State) (id : Nat) : Bytes :=
  let image := (state.jfcQueryContexts.lookup id).getD []
  match state.jfcs.lookup id with
  | none => image
  | some jfc =>
      let reserved := (!config.pipelinedCompletionDma && jfc.cqeWritePending).toNat
      let image := setBits image 4 0x003fffff (jfc.producer + reserved)
      let image := setBits image 4 0xffc00000 (jfc.moderationCount <<< 22)
      let image := setBits image 5 0x003fffff jfc.consumer
      let image := setBits image 5 0x01c00000 (jfc.moderationPeriod <<< 22)
      setBits image 18 0x003fffff jfc.producer

/-! ## Commands -/

/-- Start the write-back of the descriptor. -/
def finishUbaseDescriptor (state : State) (command : Command) (status : Nat) : State :=
  (state.emit [.writeBack command status]).call .descriptorWritten

/-- The end of a query: the image goes to the guest. -/
def writeQuery (state : State) (command : Command) : State :=
  state.call (.queryWritten command)

/-- `ApplyUbaseMailbox`; `context` is what was read for the command. -/
def applyUbaseMailbox (state : State) (command : Command) (context : Bytes) : State :=
  match command.opcode with
  | .createCeq =>
      match decodeCeq command.tag context with
      | none => finishUbaseDescriptor state command 22
      | some ceq =>
          finishUbaseDescriptor
            { state with ceqs := state.ceqs.insert command.tag ceq } command 0
  | .createJfc =>
      match decodeJfc context state.generations with
      | none => finishUbaseDescriptor state command 22
      | some jfc =>
          finishUbaseDescriptor
            { state.setJfc command.tag jfc with
              generations := state.generations + 1
              armedJfcs := state.armedJfcs.erase command.tag
              jfcCqeDmaInFlight := state.jfcCqeDmaInFlight.erase command.tag
              jfcQueryContexts := state.jfcQueryContexts.insert command.tag (context.take 128)
              jfcCeqs := state.jfcCeqs.insert command.tag (word context 2 >>> 24) } command 0
  | .modifyJfc =>
      match state.jfcs.lookup command.tag with
      | none => finishUbaseDescriptor state command 2
      | some jfc =>
          finishUbaseDescriptor (state.setJfc command.tag (jfc.modify context)) command 0
  | .queryJfc | .destroyJfc | .destroyCeq => finishUbaseDescriptor state command 0

/-- The number of context bytes a command reads. -/
def Opcode.contextBytes : Opcode → Nat
  | .modifyJfc => 256
  | .createCeq => 64
  | _ => 128

/-- The callback of the context read. -/
def contextRead (state : State) (command : Command) (ok : Bool) (bytes : Bytes) : State :=
  if ok && bytes.length == command.opcode.contextBytes then
    applyUbaseMailbox state command bytes
  else finishUbaseDescriptor state command 5

/-- The callback of the read in `QueryJfcContext`. -/
def queryRead (state : State) (command : Command) (ok : Bool) (bytes : Bytes) : State :=
  match state.jfcs.lookup command.tag with
  | none => finishUbaseDescriptor state command 5
  | some jfc =>
      if ok && bytes.length == 4 then
        writeQuery (state.setJfc command.tag
          { jfc with consumer := load32 bytes 0 &&& indexMask }) command
      else finishUbaseDescriptor state command 5

/-- The callback of the image write. -/
def queryWritten (state : State) (command : Command) (ok : Bool) : State :=
  if ok then applyUbaseMailbox state command [] else finishUbaseDescriptor state command 5

/-- Erase a JFC, keeping its last image. -/
def eraseJfc (config : Config) (state : State) (id : Nat) : State :=
  { state with
    jfcQueryContexts := if (state.jfcs.lookup id).isSome then
        state.jfcQueryContexts.insert id (buildJfcQueryContext config state id)
      else state.jfcQueryContexts
    jfcs := state.jfcs.erase id
    jfcCeqs := state.jfcCeqs.erase id
    armedJfcs := state.armedJfcs.erase id
    jfcCqeDmaInFlight := state.jfcCqeDmaInFlight.erase id }

def handleUbaseMailbox (config : Config) (state : State) (command : Command) : State :=
  match command.opcode with
  | .destroyCeq =>
      if state.ceqBusy command.tag then
        { state with drainingCeqId := some command.tag, pendingEqDestroy := some command }
      else
        applyUbaseMailbox { state with ceqs := state.ceqs.erase command.tag } command []
  | .createCeq =>
      if state.ceqBusy command.tag then finishUbaseDescriptor state command 16
      else if command.contextIova = 0 then finishUbaseDescriptor state command 22
      else state.call (.contextRead command)
  | .destroyJfc =>
      if state.jfcPublicationBusy command.tag then
        { state with drainingJfcId := some command.tag, pendingJfcDestroy := some command }
      else applyUbaseMailbox (eraseJfc config state command.tag) command []
  | .createJfc =>
      if command.contextIova = 0 then finishUbaseDescriptor state command 22
      else if (state.jfcs.lookup command.tag).isSome then finishUbaseDescriptor state command 17
      else state.call (.contextRead command)
  | .modifyJfc =>
      if command.contextIova = 0 then finishUbaseDescriptor state command 22
      else state.call (.contextRead command)
  | .queryJfc =>
      if command.contextIova = 0 then finishUbaseDescriptor state command 22
      else if (state.jfcQueryContexts.lookup command.tag).isNone then
        finishUbaseDescriptor state command 2
      else if (state.jfcs.lookup command.tag).isSome then state.call (.queryRead command)
      else writeQuery state command

def maybeCompleteJfcDestroy (config : Config) (state : State) : State :=
  match state.pendingJfcDestroy with
  | none => state
  | some command =>
      if state.drainingJfcId.any state.jfcPublicationBusy then state
      else handleUbaseMailbox config
        { state with pendingJfcDestroy := none, drainingJfcId := none } command

def maybeCompleteEqDestroy (config : Config) (state : State) : State :=
  match state.pendingEqDestroy with
  | none => state
  | some command =>
      if state.drainingCeqId.any state.ceqBusy then state
      else handleUbaseMailbox config
        { state with pendingEqDestroy := none, drainingCeqId := none } command

/-! ## Doorbells -/

/-- `HandleCeqConsumerMmio` behind the test of the offset and the type. -/
def ceqDoorbell (state : State) (value : Nat) : State :=
  let id := value &&& 0xff
  match state.ceqs.lookup id with
  | none => state
  | some ceq =>
      let delta := sub32 ((value >>> 32) &&& 0xffffff) ceq.consumer &&& 0xffffff
      let published := sub32 ceq.producer ceq.consumer
      let reserved := state.completionEventBusy && state.ceqWritePending &&
        state.activeCeqId == id
      if value &&& 0xff000000fffcff00 ≠ 0 ∨ ceq.creditFault ∨
          (published + reserved.toNat) % 2 ^ 32 < delta then state
      else
        let moved := if published < delta then
            { ceq with
              pendingConsumer := (ceq.consumer + delta) % 2 ^ 32
              consumerPending := true }
          else { ceq with consumer := (ceq.consumer + delta) % 2 ^ 32 }
        { state with ceqs := state.ceqs.insert id moved }.push [.processCompletionEvent]

/-- The JFC doorbell of `WriteMmio`. -/
def jfcDoorbell (config : Config) (state : State) (value : Nat) : State :=
  let id := (value >>> 32) &&& 0xfffff
  if config.oneShotJfcNotifications ∧ value &&& (1 <<< 27) ≠ 0 ∧
      value &&& 0xfff00000f0000000 = 0 ∧ (state.jfcs.lookup id).isSome then
    { state with armedJfcs := state.armedJfcs.insert id true }.emit [.armed id]
  else state

/-! ## The step function -/

def runCallback (config : Config) (state : State) (ok : Bool) (bytes : Bytes) :
    Callback → State
  | .consumerRead ticket id publication =>
      consumerRead config state ticket id publication ok bytes
  | .cqeWritten ticket id publication => cqeWritten config state ticket id publication ok
  | .ceqeWritten ticket ceqId _ => ceqeWritten state ticket ceqId ok
  | .interruptRaised ticket => interruptRaised state ticket
  | .contextRead command => contextRead state command ok bytes
  | .queryRead command => queryRead state command ok bytes
  | .queryWritten command => queryWritten state command ok
  | .descriptorWritten => { state with ubaseBusy := false }

inductive Event where
  /-- The engine runs the top of its stack. -/
  | run
  /-- A pass of the pump begins; the order in which the map of JFCs yields the
  expired timers is not specified. -/
  | beginPass (expired : List Nat)
  /-- The callback at `index` of the outstanding ones is called. -/
  | fire (index : Nat) (ok : Bool) (bytes : Bytes)
  | writeCqe (id : Nat) (cqe : Cqe)
  | mailbox (command : Command)
  | ceqDoorbell (value : Nat)
  | jfcDoorbell (value : Nat)
  | advanceTime (now : Nat)
  deriving DecidableEq, Repr

/-- Nothing of the engine is running, or it waits for code outside to return. -/
def State.atBoundary (state : State) : Bool :=
  match state.stack with
  | [] => true
  | .external :: _ => true
  | _ => false

/-- What an outside party does at the boundary. -/
def environment (config : Config) (state : State) : Event → Option State
  | .run | .beginPass _ => none
  | .fire index ok bytes =>
      match state.outstanding[index]? with
      | none => none
      | some callback =>
          some (runCallback config
            { state with outstanding := state.outstanding.eraseIdx index } ok bytes callback)
  | .writeCqe id cqe => some (writeCqe state id cqe)
  | .mailbox command =>
      if state.ubaseBusy then none
      else some (handleUbaseMailbox config { state with ubaseBusy := true } command)
  | .ceqDoorbell value => some (ceqDoorbell state value)
  | .jfcDoorbell value => some (jfcDoorbell config state value)
  | .advanceTime now =>
      if now < state.now then some state
      else some ({ state with now := now }.push [.pumpCompletionWork])

def runTask (config : Config) (state : State) : Task → Option State
  | .external => some state
  | .pumpCompletionWork => some (pumpCompletionWork state)
  | .pumpPass => none
  | .pumpTimers expired => some (pumpTimers config state expired)
  | .pumpQueues ids => some (pumpQueues state ids)
  | .processJfcPublications id => some (processJfcPublications config state id)
  | .admitJfcPublications id => some (admitJfcPublications config state id)
  | .leaveJfcPublications id => some (leaveJfcPublications state id)
  | .releasePublication id => some (releasePublication config state id)
  | .complete call ok => some ((state.emit [.completed call ok]).push [.external])
  | .emitCompletionEvent ticket id => some (emitCompletionEvent config state ticket id)
  | .releaseCompletionEventSlot ticket => some (releaseCompletionEventSlot state ticket)
  | .processCompletionEvent => some (processCompletionEvent state)
  | .dispatchCompletionEvents => some (dispatchCompletionEvents state)
  | .maybeCompleteJfcDestroy => some (maybeCompleteJfcDestroy config state)
  | .maybeCompleteEqDestroy => some (maybeCompleteEqDestroy config state)

/-- The start of a pass: clear the kick, take the snapshot. -/
def beginPass (state : State) (expired : List Nat) : State :=
  { state with completionWorkKick := false }.push [.pumpTimers expired]

def step (config : Config) (state : State) (event : Event) : Option State :=
  match event, state.stack with
  | .run, task :: rest => runTask config { state with stack := rest } task
  | .beginPass expired, .pumpPass :: rest =>
      if expired.Perm state.expired then some (beginPass { state with stack := rest } expired)
      else none
  | .run, [] | .beginPass _, _ => none
  | _, _ => if state.atBoundary then environment config state event else none

/-- The engine runs `count` activations. -/
def runs (count : Nat) : List Event := List.replicate count .run

/-! ## A small instance -/

/-- Two slots, and every CQE notified. -/
def Config.small (pipelined : Bool) : Config where
  completionEventSlots := 2
  pipelinedCompletionDma := pipelined
  oneShotJfcNotifications := false
  slots_bounds := by decide

/-- The context of a CEQ with 64 entries. -/
def ceqImage : Bytes := store64 0 ++ store64 0x10000000 ++ List.replicate 48 0

/-- The context of a JFC with 64 entries that reports every CQE to CEQ 2. -/
def jfcImage : Bytes :=
  store64 0x20000000 ++ store64 0x2000001 ++ store64 (1 <<< 22) ++ store64 0x3000 ++
    List.replicate 96 0

def Cqe.small : Cqe where
  receive := false
  jetty := true
  opcode := 0
  entryIndex := 0
  localId := 9
  byteCount := 8
  userData := 0
  immediate := 0

/-- A create command with the reads and writes it makes. -/
def create (opcode : Opcode) (tag : Nat) (image : Bytes) : List Event :=
  [.mailbox ⟨opcode, tag, 0x1000⟩, .run, .fire 0 true image, .run, .fire 0 true []]

/-- CEQ 2 and JFC 7 come into being. -/
def created : List Event := create .createCeq 2 ceqImage ++ create .createJfc 7 jfcImage

/-- A pass of the pump without expired timers. -/
def pass (count : Nat) : List Event := [.run, .beginPass []] ++ runs count

end Udma.Cq
