import Udma.Ummu.Tables

/-!
# Translation machine

The IOTLB, the register file and the walks that wait for a table read.  A step
is a call of `TranslateToken`, a callback of one of its DMA reads, a write to the
UMMU window of `WriteMmio`, or a callback of a command fetch.  A completion runs
last in the code that invokes it, so what it calls is a later step.
-/

namespace Udma.Ummu

open Transition (Script)
open Abi (Bytes)

/-! ## Registers -/

/-- The bytes of `ummu_registers_`. -/
structure Registers where
  byte : Nat → UInt8

namespace Registers

/-- `LoadLe` of `width` bytes. -/
def load (registers : Registers) : (offset width : Nat) → Nat
  | _, 0 => 0
  | offset, width + 1 => (registers.byte offset).toNat + 256 * registers.load (offset + 1) width

/-- `StoreLe` of `width` bytes. -/
def store (registers : Registers) (offset width value : Nat) : Registers where
  byte index :=
    if offset ≤ index ∧ index < offset + width then UInt8.ofNat (value >>> (8 * (index - offset)))
    else registers.byte index

/-- The values the constructor sets. -/
def initial : Registers :=
  ((((Registers.mk fun _ => 0).store 0x10 4 0x00000b08).store 0x14 4 0x00042208).store
    0x18 4 0x0000916e).store 0x1c 4 0x00001010 |>.store 0x24 4 0x00000011

/-- Base of the target-entity table. -/
def tect (registers : Registers) : Nat := registers.load 0x70 8 &&& addressMask

end Registers

def ummuOffset : Nat := 0x00f00000
def ummuBytes : Nat := 0x5000
def ummuCr0 : Nat := 0x30
def ummuCr0Ack : Nat := 0x34
def ummuGbpa : Nat := 0x50
def ummuCommandQueueOffset : Nat := 0x100
def ummuCommandQueueStride : Nat := 0x10
def ummuCommandQueueProducer : Nat := 0x8
def ummuCommandQueueConsumer : Nat := 0xc
def ummuCommandQueueEnable : Nat := 1 <<< 31
def ummuReleasePermissionQueue : Nat := 0x1178
def ummuReleaseCompletion : Nat := 1

/-! ## State -/

/-- A `TranslateToken` call that waits for a table read.  Calls are told apart by
their serial number. -/
structure Walk where
  serial : Nat
  request : Request
  read : DmaRead
  resume : Delivery → TableScript

/-- An element of `iotlb_`, with the call that stored it, which the code does not keep. -/
structure Entry where
  key : Nat
  value : Nat
  walk : Nat
  deriving DecidableEq, Repr

/-- What happens in a run, in order.  An address is yielded from the table reads of
`source`: the call itself, or the one that stored the entry it hit. -/
inductive Observation where
  | called (serial : Nat) (request : Request)
  | tableRead (serial : Nat)
  | written
  | yielded (serial source : Nat) (ok : Bool) (physical : Nat)
  deriving DecidableEq

/-- A command fetch in flight; `ummu_command_queue_busy_` holds for exactly these queues. -/
structure CommandFetch where
  queue : Nat
  ringMask : Nat

structure Config where
  iotlbEntries : Nat

structure State where
  registers : Registers
  fetches : List CommandFetch
  iotlb : List Entry
  walks : List Walk
  calls : Nat
  trace : List Observation

/-- Before any translation, with the given register contents. -/
def State.configured (registers : Registers) : State := ⟨registers, [], [], [], 0, []⟩

def State.initial : State := .configured .initial

namespace State

variable (state : State)

def lookup (key : Nat) : Option Entry := state.iotlb.find? (·.key == key)

def observe (observation : Observation) : State :=
  { state with trace := state.trace ++ [observation] }

/-! ## Translation -/

/-- `iotlb_[key] = value`, after a clear when the cache is full. -/
def fill (config : Config) (entry : Entry) : State :=
  let kept := if config.iotlbEntries ≤ state.iotlb.length then [] else state.iotlb
  { state with iotlb := entry :: kept.filter (·.key != entry.key) }

/-- The innermost callback of a walk. -/
def conclude (config : Config) (serial : Nat) (request : Request) (ok : Bool)
    (physical : Nat) : State :=
  let stored :=
    if ok ∧ config.iotlbEntries ≠ 0 then
      state.fill config ⟨request.cacheKey, (physical >>> 12) <<< 12, serial⟩
    else state
  stored.observe (.yielded serial serial ok physical)

/-- Go on with a walk up to its next table read. -/
def advance (config : Config) (serial : Nat) (request : Request) : TableScript → State
  | .done (ok, physical) => state.conclude config serial request ok physical
  | .ask read resume => { state with walks := state.walks ++ [⟨serial, request, read, resume⟩] }

def translateToken (config : Config) (request : Request) : State :=
  let serial := state.calls
  let called := { state with calls := state.calls + 1 }.observe (.called serial request)
  match state.lookup request.cacheKey with
  | some entry =>
      called.observe
        (.yielded serial entry.walk true (entry.value ||| (request.address &&& 0xfff)))
  | none => called.advance config serial request (walkTables state.registers.tect request)

/-- The callback of a table read. -/
def tableRead (config : Config) (walk : Walk) (delivery : Delivery) : State :=
  let resumed := { state with walks := state.walks.filter (·.serial != walk.serial) }
  (resumed.observe (.tableRead walk.serial)).advance config walk.serial walk.request
    (walk.resume delivery)

/-! ## Register writes -/

def setRegisters (registers : Registers) : State := { state with registers := registers }

def processUmmuCommandQueue (queue : Nat) : State :=
  if state.fetches.any (·.queue == queue) then state
  else
    let producer := state.registers.load (queue + ummuCommandQueueProducer) 4
    let baseWord := state.registers.load queue 8
    let log2size := baseWord &&& 0x1f
    let base := baseWord &&& 0x000fffffffffffe0
    let consumerOffset := queue + ummuCommandQueueConsumer
    let consumer := state.registers.load consumerOffset 4
    if base = 0 ∨ log2size = 0 ∨ log2size > 16 ∨ producer &&& ummuCommandQueueEnable = 0 then
      state.setRegisters (state.registers.store consumerOffset 4 producer)
    else
      let ringMask := 2 * 2 ^ log2size - 1
      if consumer &&& ringMask = producer &&& ringMask then
        state.setRegisters (state.registers.store consumerOffset 4
          (consumer % 2 ^ 31 ||| (producer &&& ummuCommandQueueEnable)))
      else { state with fetches := state.fetches ++ [⟨queue, ringMask⟩] }

/-- The callback of a command fetch. -/
def commandFetched (fetch : CommandFetch) (delivery : Delivery) : State :=
  let idle := { state with fetches := state.fetches.filter (·.queue != fetch.queue) }
  if !delivery.complete 32 then idle
  else
    let producer := state.registers.load (fetch.queue + ummuCommandQueueProducer) 4
    let oldConsumer := state.registers.load (fetch.queue + ummuCommandQueueConsumer) 4
    let next := ((oldConsumer + 1) &&& fetch.ringMask) ||| (producer &&& ummuCommandQueueEnable)
    (idle.setRegisters (state.registers.store (fetch.queue + ummuCommandQueueConsumer) 4
      next)).processUmmuCommandQueue fetch.queue

/-- The register contents after a write, before a command queue is kicked. -/
def writtenRegisters (reg length value : Nat) : Registers :=
  let plain := state.registers.store reg length value
  let released :=
    if reg = ummuReleasePermissionQueue ∧ length = 4 ∧
        plain.load reg 4 &&& ummuReleaseCompletion ≠ 0 then
      plain.store reg 4 0
    else plain
  let acknowledged :=
    if reg ≤ ummuCr0 ∧ ummuCr0 + 4 ≤ reg + length then
      released.store ummuCr0Ack 4 (released.load ummuCr0 4)
    else released
  if reg ≤ ummuGbpa ∧ ummuGbpa + 4 ≤ reg + length then
    acknowledged.store ummuGbpa 4 (acknowledged.load ummuGbpa 4 % 2 ^ 31)
  else acknowledged

/-- The UMMU window of `WriteMmio`: every write clears the IOTLB. -/
def writeUmmu (reg length value : Nat) : State :=
  let cleared := { state with iotlb := [] }.setRegisters (state.writtenRegisters reg length value)
  let queueOffset := (reg - ummuCommandQueueOffset) % ummuCommandQueueStride
  let kicked :=
    if ummuCommandQueueOffset ≤ reg ∧ reg < ummuCommandQueueOffset + 0x1000 ∧
        queueOffset = ummuCommandQueueProducer ∧ length = 4 then
      cleared.processUmmuCommandQueue (reg - queueOffset)
    else cleared
  kicked.observe .written

end State

/-! ## Steps -/

inductive Event where
  | translate (request : Request)
  | tableRead (serial : Nat) (delivery : Delivery)
  | writeMmio (offset length value : Nat)
  | commandFetched (queue : Nat) (delivery : Delivery)

def step (config : Config) (state : State) : Event → Option State
  | .translate request => some (state.translateToken config request)
  | .tableRead serial delivery =>
      (state.walks.find? (·.serial == serial)).map (state.tableRead config · delivery)
  | .writeMmio offset length value =>
      if 0 < length ∧ length ≤ 8 ∧ ummuOffset ≤ offset ∧
          offset + length ≤ ummuOffset + ummuBytes then
        some (state.writeUmmu (offset - ummuOffset) length value)
      else none
  | .commandFetched queue delivery =>
      (state.fetches.find? (·.queue == queue)).map (state.commandFetched · delivery)

end Udma.Ummu
