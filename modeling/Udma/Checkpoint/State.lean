import Udma.Arithmetic.LittleEndian
import Udma.Collections.Codec
import Udma.Collections.Walk

/-!
# The checkpoint of the device

`UdmaModel::SaveState` and `LoadState` with the records they write.  A record of the program is
copied as it lies in memory, with the padding of the x86-64 ABI; what the padding holds is not
read.  The maps are hash maps: an image has their entries in the order in which they are walked,
and that order is not part of the state.

Containers of which only the emptiness is looked at are their sizes.
-/

namespace Udma.Checkpoint

open Udma.Arithmetic Udma.Collections

abbrev Stored (Value : Type) := Codec UInt8 Value

/-! ## Records -/

theorem ofNat_toNat64 (value : UInt64) :
    UInt64.ofNat (ofLittleEndian (toLittleEndian 8 value.toNat)) = value := by
  rw [ofLittleEndian_toLittleEndian, Nat.mod_eq_of_lt (value.toNat_lt.trans_eq (by decide))]
  exact UInt64.ofNat_toNat

theorem ofNat_toNat32 (value : UInt32) :
    UInt32.ofNat (ofLittleEndian (toLittleEndian 4 value.toNat)) = value := by
  rw [ofLittleEndian_toLittleEndian, Nat.mod_eq_of_lt (value.toNat_lt.trans_eq (by decide))]
  exact UInt32.ofNat_toNat

def u64 : Stored UInt64 :=
  .fixed 8 (fun value => toLittleEndian 8 value.toNat)
    (fun bytes => UInt64.ofNat (ofLittleEndian bytes))
    (fun _ => toLittleEndian_length _ _) ofNat_toNat64

def u32 : Stored UInt32 :=
  .fixed 4 (fun value => toLittleEndian 4 value.toNat)
    (fun bytes => UInt32.ofNat (ofLittleEndian bytes))
    (fun _ => toLittleEndian_length _ _) ofNat_toNat32

def u8 : Stored UInt8 :=
  .fixed 1 (fun value => [value]) (fun bytes => bytes.headD 0) (fun _ => rfl) fun _ => rfl

def flag : Stored Bool :=
  u8.reshape (fun byte => byte != 0) (fun up => if up then 1 else 0)

def padding (size : Nat) : Stored Unit :=
  .fixed size (fun _ => List.replicate size 0) (fun _ => ()) (fun _ => List.length_replicate)
    fun _ => rfl

/-- A `std::uint64_t` that is made of a size. -/
def size : Stored Nat := u64.reshape UInt64.toNat UInt64.ofNat

/-- A `std::unordered_map` of the device. -/
abbrev Map (Value : Type) := Finmap fun _ : UInt32 => Value

/-- The entries of one in an image. -/
abbrev Row (Value : Type) := List (UInt32 × Value)

def mapLimit : Nat := 1 <<< 24

structure QueueContext where
  queueIova : UInt64 := 0
  indexIova : UInt64 := 0
  producerIova : UInt64 := 0
  depth : UInt32 := 0
  completionQueue : UInt32 := 0
  token : UInt32 := 0
  payloadToken : UInt32 := 0
  receiveQueue : UInt32 := 0
  receiveCompletionQueue : UInt32 := 0
  eidIndex : UInt32 := 0
  userQueue : UInt64 := 0
  devicePageOffset : UInt64 := 0
  producer : UInt64 := 0
  consumer : UInt64 := 0
  isJetty : Bool := true
  busy : Bool := false
  cqeWritePending : Bool := false
  directPending : Bool := false
  targetProducer : UInt32 := 0
  maxSge : UInt32 := 1
  entryStride : UInt32 := 16
  moderationCount : UInt32 := 1
  moderationPeriod : UInt32 := 0
  pendingCompletions : UInt32 := 0
  moderationDeadlinePs : UInt64 := 0
  directWqe : List UInt8 := List.replicate 64 0
  directValid : UInt64 := 0
  deriving DecidableEq

structure EventQueueContext where
  iova : UInt64 := 0
  depth : UInt32 := 0
  producer : UInt32 := 0
  vector : UInt32 := 0
  consumer : UInt32 := 0
  pendingConsumer : UInt32 := 0
  consumerPending : Bool := false
  creditFault : Bool := false
  deriving DecidableEq

structure TpRoute where
  id : UInt32 := 0
  tpn : UInt32 := 0
  localEid : UInt32 := 0
  remoteEid : UInt32 := 0
  port : UInt32 := 0
  active : Bool := false
  deriving DecidableEq

def queueContext : Stored QueueContext :=
  (u64.pair <| u64.pair <| u64.pair <| u32.pair <| u32.pair <| u32.pair <| u32.pair <|
   u32.pair <| u32.pair <| u32.pair <| (padding 4).pair <| u64.pair <| u64.pair <| u64.pair <|
   u64.pair <| flag.pair <| flag.pair <| flag.pair <| flag.pair <| u32.pair <| u32.pair <|
   u32.pair <| u32.pair <| u32.pair <| u32.pair <| (padding 4).pair <| u64.pair <|
   (u8.repeated 64).pair <| u64).reshape
    (fun (queueIova, indexIova, producerIova, depth, completionQueue, token, payloadToken,
      receiveQueue, receiveCompletionQueue, eidIndex, _gap, userQueue, devicePageOffset,
      producer, consumer, isJetty, busy, cqeWritePending, directPending, targetProducer, maxSge,
      entryStride, moderationCount, moderationPeriod, pendingCompletions, _space,
      moderationDeadlinePs, directWqe, directValid) =>
      { queueIova, indexIova, producerIova, depth, completionQueue, token, payloadToken,
        receiveQueue, receiveCompletionQueue, eidIndex, userQueue, devicePageOffset, producer,
        consumer, isJetty, busy, cqeWritePending, directPending, targetProducer, maxSge,
        entryStride, moderationCount, moderationPeriod, pendingCompletions, moderationDeadlinePs,
        directWqe, directValid })
    fun record => (record.queueIova, record.indexIova, record.producerIova, record.depth,
      record.completionQueue, record.token, record.payloadToken, record.receiveQueue,
      record.receiveCompletionQueue, record.eidIndex, (), record.userQueue,
      record.devicePageOffset, record.producer, record.consumer, record.isJetty, record.busy,
      record.cqeWritePending, record.directPending, record.targetProducer, record.maxSge,
      record.entryStride, record.moderationCount, record.moderationPeriod,
      record.pendingCompletions, (), record.moderationDeadlinePs, record.directWqe,
      record.directValid)

def eventQueueContext : Stored EventQueueContext :=
  (u64.pair <| u32.pair <| u32.pair <| u32.pair <| u32.pair <| u32.pair <| flag.pair <|
   flag.pair <| padding 2).reshape
    (fun (iova, depth, producer, vector, consumer, pendingConsumer, consumerPending, creditFault,
      _gap) =>
      { iova, depth, producer, vector, consumer, pendingConsumer, consumerPending, creditFault })
    fun record => (record.iova, record.depth, record.producer, record.vector, record.consumer,
      record.pendingConsumer, record.consumerPending, record.creditFault, ())

def tpRoute : Stored TpRoute :=
  (u32.pair <| u32.pair <| u32.pair <| u32.pair <| u32.pair <| flag.pair <| padding 3).reshape
    (fun (id, tpn, localEid, remoteEid, port, active, _gap) =>
      { id, tpn, localEid, remoteEid, port, active })
    fun record => (record.id, record.tpn, record.localEid, record.remoteEid, record.port,
      record.active, ())

/-- What `WritePodMap` and `ReadPodMap` have in the stream. -/
def podMap {Value : Type} (value : Stored Value) : Stored (Row Value) :=
  Codec.counted size mapLimit (u32.pair value)

/-! ## The model -/

@[ext]
structure Config where
  mmioBase : UInt64
  portCount : UInt32
  endpointEid : UInt32
  deriving DecidableEq

/-- What a checkpoint keeps, but for the maps. -/
structure Registers where
  ummuRegisters : List UInt8
  genericIovaToken : Option UInt32
  ubiosMessageQueueRegisters : List UInt32
  ubaseCommandQueueRegisters : List UInt32
  ubaseCommandSource : UInt32
  ubiosRootCna : UInt32
  ubiosEndpointCna : UInt32
  ubiosTargetProducer : UInt32
  ubiosErrors : UInt64
  ubaseTargetProducer : UInt32
  ubaseErrors : UInt64
  msiIova : UInt64
  msiPhysical : UInt64
  aeqIova : UInt64
  aeqDepth : UInt32
  aeqProducer : UInt32
  aeqVector : UInt32
  nextTpId : UInt32
  nextTpPort : UInt32
  nextSequence : UInt64
  nextRmaRequest : UInt64
  submitted : UInt64
  completed : UInt64
  linkUp : List Bool

/-- The maps: of the device as `Map`, in an image as `Row`. -/
@[ext]
structure Tables (Map : Type → Type) where
  ubiosRootConfig : Map UInt32
  ubiosEndpointConfig : Map UInt32
  ceqs : Map EventQueueContext
  jfcCeqs : Map UInt32
  jfcContexts : Map QueueContext
  jfcQueryContexts : Map (List UInt8)
  jfrContexts : Map QueueContext
  jettyContexts : Map QueueContext
  tpRoutes : Map TpRoute
  armedJfcs : Map UInt8

structure Persistent (Map : Type → Type) extends Registers, Tables Map

/-- `ReadPodMap` fills each map with its row. -/
def Persistent.restored (rows : Persistent Row) : Persistent Map :=
  { rows with
    ubiosRootConfig := emplaceAll rows.ubiosRootConfig
    ubiosEndpointConfig := emplaceAll rows.ubiosEndpointConfig
    ceqs := emplaceAll rows.ceqs
    jfcCeqs := emplaceAll rows.jfcCeqs
    jfcContexts := emplaceAll rows.jfcContexts
    jfcQueryContexts := emplaceAll rows.jfcQueryContexts
    jfrContexts := emplaceAll rows.jfrContexts
    jettyContexts := emplaceAll rows.jettyContexts
    tpRoutes := emplaceAll rows.tpRoutes
    armedJfcs := emplaceAll rows.armedJfcs }

/-- The rows are the maps in an order in which each can be walked. -/
structure Persistent.Walked (rows : Persistent Row) (persistent : Persistent Map) : Prop where
  registers : rows.toRegisters = persistent.toRegisters
  ubiosRootConfig : Walks rows.ubiosRootConfig persistent.ubiosRootConfig
  ubiosEndpointConfig : Walks rows.ubiosEndpointConfig persistent.ubiosEndpointConfig
  ceqs : Walks rows.ceqs persistent.ceqs
  jfcCeqs : Walks rows.jfcCeqs persistent.jfcCeqs
  jfcContexts : Walks rows.jfcContexts persistent.jfcContexts
  jfcQueryContexts : Walks rows.jfcQueryContexts persistent.jfcQueryContexts
  jfrContexts : Walks rows.jfrContexts persistent.jfrContexts
  jettyContexts : Walks rows.jettyContexts persistent.jettyContexts
  tpRoutes : Walks rows.tpRoutes persistent.tpRoutes
  armedJfcs : Walks rows.armedJfcs persistent.armedJfcs

/-- The fields of `SqPipeline` that `IsQuiescent` looks at. -/
structure SqPipeline where
  prefetchInflight : Bool
  prefetchFailed : Bool
  cache : Nat
  preparedWrites : Nat

/-- What `LoadState` resets. -/
structure Runtime where
  iotlb : Nat := 0
  ummuCommandQueueBusy : List (UInt32 × Bool) := []
  ubiosBusy : Bool := false
  ubaseBusy : Bool := false
  completionEventBusy : Bool := false
  receiveBusy : Bool := false
  ceqWritePending : Bool := false
  completionEventDispatching : Bool := false
  completionWorkDispatching : Bool := false
  completionWorkKick : Bool := false
  completionEventSlotsInUse : UInt32 := 0
  lastJfcAdmitted : Option UInt32 := none
  completionEvents : Nat := 0
  mailboxEvents : Nat := 0
  jfcPublications : Nat := 0
  jfcCqeDmaInFlight : Nat := 0
  sqPipelines : List (UInt32 × SqPipeline) := []
  aeqInFlight : UInt32 := 0
  drainingEqCommand : UInt8 := 0
  drainingQueueCommand : UInt8 := 0
  pendingEqDestroy : Bool := false
  pendingJfcDestroy : Bool := false
  pendingQueueDestroy : Bool := false
  drainingJfcId : Option UInt32 := none
  activeReceiveJfr : Option UInt32 := none
  activeReceiveJetty : Option UInt32 := none
  readResponseDma : Nat := 0
  remoteServicesInFlight : Nat := 0
  pending : Nat := 0
  receiveFrames : Nat := 0
  pendingRma : Nat := 0
  nowPs : UInt64 := 0

structure State where
  config : Config
  persistent : Persistent Map
  runtime : Runtime

def queueBusy (contexts : Map QueueContext) : Bool :=
  contexts.any fun _ context =>
    context.busy || context.directPending || context.pendingCompletions != 0

/-- The part of `IsQuiescent` that looks at what a checkpoint keeps. -/
def Persistent.settled (persistent : Persistent Map) : Bool :=
  !(persistent.ceqs.any fun _ ceq => ceq.consumerPending || ceq.creditFault) &&
    !queueBusy persistent.jfcContexts && !queueBusy persistent.jfrContexts &&
      !queueBusy persistent.jettyContexts

def Runtime.settled (runtime : Runtime) : Bool :=
  runtime.completionEventSlotsInUse == 0 &&
    !(runtime.ummuCommandQueueBusy.any fun entry => entry.2) &&
    !(runtime.sqPipelines.any fun entry => entry.2.prefetchInflight ||
      entry.2.prefetchFailed || entry.2.cache != 0 || entry.2.preparedWrites != 0) &&
    !(runtime.ubiosBusy || runtime.ubaseBusy || runtime.pendingQueueDestroy ||
      runtime.remoteServicesInFlight != 0 || runtime.pendingJfcDestroy ||
      runtime.pendingEqDestroy || runtime.activeReceiveJfr.isSome ||
      runtime.activeReceiveJetty.isSome || runtime.readResponseDma != 0 ||
      runtime.aeqInFlight != 0 || runtime.mailboxEvents != 0 || runtime.jfcPublications != 0 ||
      runtime.completionEventBusy || runtime.completionEvents != 0 || runtime.pending != 0 ||
      runtime.receiveBusy || runtime.receiveFrames != 0 || runtime.pendingRma != 0)

def State.isQuiescent (state : State) : Bool :=
  state.runtime.settled && state.persistent.settled

/-! ## The image -/

/-- `kStateMagic`. -/
def stateMagic : UInt64 := 0x3154504355444f55

structure Header where
  magic : UInt64 := stateMagic
  version : UInt32 := 4
  mmioBase : UInt64
  portCount : UInt32
  endpointEid : UInt32
  deriving DecidableEq

def heading (config : Config) : Stored Header :=
  ((u64.check fun magic => magic == stateMagic).pair <|
    (u32.check fun version => version == 3 || version == 4).pair <|
    (u64.check fun base => base == config.mmioBase).pair <|
    (u32.check fun ports => ports == config.portCount).pair <|
    u32.check fun eid => eid == config.endpointEid).reshape
    (fun (magic, version, mmioBase, portCount, endpointEid) =>
      ⟨magic, version, mmioBase, portCount, endpointEid⟩)
    fun header =>
      (header.magic, header.version, header.mmioBase, header.portCount, header.endpointEid)

def optionalToken : Stored (Option UInt32) :=
  (u8.pair u32).reshape (fun (has, token) => if has != 0 then some token else none)
    fun token => (if token.isSome then 1 else 0, token.getD 0)

def links (config : Config) : Stored (List Bool) :=
  ((size.check fun count => count == config.portCount.toNat).dependent fun count =>
    flag.repeated count).reshape Prod.snd fun linkUp => (linkUp.length, linkUp)

/-- Images of version 3 end before the armed JFCs. -/
def armed (version : UInt32) : Stored (Row UInt8) :=
  if version = 4 then podMap u8 else .nothing []

def contents (config : Config) (version : UInt32) : Stored (Persistent Row) :=
  ((u8.repeated 0x5000).pair <| optionalToken.pair <| (u32.repeated 72).pair <|
    (u32.repeated 11).pair <| u32.pair <| (podMap u32).pair <| (podMap u32).pair <| u32.pair <|
    u32.pair <| u32.pair <| u64.pair <| u32.pair <| u64.pair <| u64.pair <| u64.pair <|
    u64.pair <| u32.pair <| u32.pair <| u32.pair <| (podMap eventQueueContext).pair <|
    (podMap u32).pair <| (podMap queueContext).pair <| (podMap (u8.repeated 128)).pair <|
    (podMap queueContext).pair <| (podMap queueContext).pair <| (podMap tpRoute).pair <|
    u32.pair <| u32.pair <| u64.pair <| u64.pair <| u64.pair <| u64.pair <|
    (links config).pair <| armed version).reshape
    (fun (ummuRegisters, genericIovaToken, ubiosMessageQueueRegisters, ubaseCommandQueueRegisters,
      ubaseCommandSource, ubiosRootConfig, ubiosEndpointConfig, ubiosRootCna, ubiosEndpointCna,
      ubiosTargetProducer, ubiosErrors, ubaseTargetProducer, ubaseErrors, msiIova, msiPhysical,
      aeqIova, aeqDepth, aeqProducer, aeqVector, ceqs, jfcCeqs, jfcContexts, jfcQueryContexts,
      jfrContexts, jettyContexts, tpRoutes, nextTpId, nextTpPort, nextSequence, nextRmaRequest,
      submitted, completed, linkUp, armedJfcs) =>
      { ummuRegisters, genericIovaToken, ubiosMessageQueueRegisters, ubaseCommandQueueRegisters,
        ubaseCommandSource, ubiosRootConfig, ubiosEndpointConfig, ubiosRootCna, ubiosEndpointCna,
        ubiosTargetProducer, ubiosErrors, ubaseTargetProducer, ubaseErrors, msiIova, msiPhysical,
        aeqIova, aeqDepth, aeqProducer, aeqVector, ceqs, jfcCeqs, jfcContexts, jfcQueryContexts,
        jfrContexts, jettyContexts, tpRoutes, nextTpId, nextTpPort, nextSequence, nextRmaRequest,
        submitted, completed, linkUp, armedJfcs })
    fun state => (state.ummuRegisters, state.genericIovaToken, state.ubiosMessageQueueRegisters,
      state.ubaseCommandQueueRegisters, state.ubaseCommandSource, state.ubiosRootConfig,
      state.ubiosEndpointConfig, state.ubiosRootCna, state.ubiosEndpointCna,
      state.ubiosTargetProducer, state.ubiosErrors, state.ubaseTargetProducer, state.ubaseErrors,
      state.msiIova, state.msiPhysical, state.aeqIova, state.aeqDepth, state.aeqProducer,
      state.aeqVector, state.ceqs, state.jfcCeqs, state.jfcContexts, state.jfcQueryContexts,
      state.jfrContexts, state.jettyContexts, state.tpRoutes, state.nextTpId, state.nextTpPort,
      state.nextSequence, state.nextRmaRequest, state.submitted, state.completed, state.linkUp,
      state.armedJfcs)

/-- What `SaveState` writes and `LoadState` reads. -/
def image (config : Config) : Stored (Header × Persistent Row) :=
  (heading config).dependent fun header => contents config header.version

def State.header (state : State) (version : UInt32) : Header :=
  { version := version, mmioBase := state.config.mmioBase, portCount := state.config.portCount,
    endpointEid := state.config.endpointEid }

/-- `SaveState`, which walks the maps as in `rows`. -/
def saveState (state : State) (rows : Persistent Row) : Option (List UInt8) :=
  if state.isQuiescent then some ((image state.config).write (state.header 4, rows)) else none

/-- `SaveState` can write these bytes. -/
def State.Saves (state : State) (bytes : List UInt8) : Prop :=
  ∃ rows : Persistent Row, rows.Walked state.persistent ∧ saveState state rows = some bytes

def loadState (state : State) (stream : List UInt8) : Option State :=
  if state.isQuiescent then
    ((image state.config).read stream).map fun taken =>
      { config := state.config, persistent := taken.1.2.restored, runtime := {} }
  else none

end Udma.Checkpoint
