import Mathlib
import Udma.Abi
import Udma.Sq.Machine

/-!
# State of the control engine

The data `udma_control.cc` works on: the registers of the UBASE command queue and
of the UBIOS message queue, the command in progress on each of them, and the
device state that commands change, which is the resource contexts and the TP
routes.

Both engines are chains of callbacks.  As in the other engines, `State.stack` is
the call stack, `Task.external` stands for a host function that has not returned,
and `State.outstanding` holds the callbacks that host functions will run.

A modulo by zero ends the program: `State.crashed`.  Counters kept only for
diagnostics are left out.
-/

namespace Udma.Control

open Udma.Abi
open Udma.Sq (TpRoute)

/-! ## Registers -/

/-- A block of 32-bit registers, by their index. -/
abbrev Words := Nat → Nat

namespace Words

/-- The device stores a register. -/
def store (words : Words) (index value : Nat) : Words :=
  Function.update words index (value % 2 ^ 32)

/-- Byte `byte` of a word after a write of `length` bytes, the first of which is
`offset` bytes behind the start of the block. -/
def byteAfter (word index byte offset length value : Nat) : Nat :=
  let place := 4 * index + byte
  if offset ≤ place ∧ place < offset + length then (value >>> (8 * (place - offset))) &&& 0xff
  else (word >>> (8 * byte)) &&& 0xff

/-- The guest writes bytes, which need not be aligned to the registers. -/
def write (words : Words) (offset length value : Nat) : Words := fun index =>
  if offset + length ≤ 4 * index ∨ 4 * index + 4 ≤ offset then words index
  else
    byteAfter (words index) index 0 offset length value |||
      (byteAfter (words index) index 1 offset length value <<< 8) |||
      (byteAfter (words index) index 2 offset length value <<< 16) |||
      (byteAfter (words index) index 3 offset length value <<< 24)

@[simp]
theorem store_same (words : Words) (index value : Nat) :
    words.store index value index = value % 2 ^ 32 := Function.update_self _ _ _

theorem store_other (words : Words) {index other : Nat} (value : Nat) (apart : other ≠ index) :
    words.store index value other = words other := Function.update_of_ne apart _ _

theorem write_other (words : Words) {offset length index : Nat} (value : Nat)
    (apart : offset + length ≤ 4 * index ∨ 4 * index + 4 ≤ offset) :
    words.write offset length value index = words index := if_pos apart

end Words

/-! ## Configuration and device state -/

structure Config where
  portCount : Nat
  endpointEid : Nat
  maxJettys : Nat
  publicJettys : Nat
  maxJfsDepth : Nat
  maxJfrDepth : Nat
  maxJfcDepth : Nat
  /-- `BuildUbiosResponse`: the answer and its opcode, from the requests so far, the task
  type, the opcode and the request.  The engine asks only whether there is an answer. -/
  buildUbiosResponse : List Bytes → Nat → Nat → Bytes → Option (Bytes × Nat)

/-- The resources that mailbox commands create and destroy. -/
inductive Kind where
  | jetty
  | jfc
  | jfr
  | aeq
  | ceq
  deriving DecidableEq, Repr

/-- What commands change. -/
structure Device where
  contexts : AList (fun _ : Kind × Nat => Bytes) := ∅
  tpRoutes : List TpRoute := []
  /-- The JFCs that a query finds; a destroyed one leaves its last image. -/
  jfcQueryContexts : List Nat := []
  nextTpId : Nat := 1
  nextTpPort : Nat := 0

/-! ## Commands in progress -/

/-- A command descriptor with the number of descriptors of its command. -/
structure Job where
  descriptor : Bytes
  count : Nat
  deriving DecidableEq, Repr

/-- What follows the write-back of a command. -/
inductive After where
  | nothing
  | ctrlqResponse (event : Bytes)
  | mailboxEvent (sequence : Nat)
  deriving DecidableEq, Repr

/-- A CtrlQ command whose further descriptors are being read. -/
structure Gathering where
  job : Job
  depth : Nat
  head : Nat
  base : Nat
  request : Bytes
  index : Nat
  deriving DecidableEq, Repr

/-- A command whose descriptors are being written back. -/
structure WriteBack where
  writes : List (Nat × Bytes)
  head : Nat
  count : Nat
  depth : Nat
  after : After
  deriving DecidableEq, Repr

/-- One descriptor of a CtrlQ response. -/
structure Block where
  slot : Nat
  address : Nat
  bytes : Bytes
  deriving DecidableEq, Repr

/-- A CtrlQ response that is being written.  `response` is a history variable: the
number of responses begun before it. -/
structure Emission where
  response : Nat
  blocks : List Block
  tail : Nat
  deriving DecidableEq, Repr

/-- A UBIOS message whose answer is being written. -/
structure Reply where
  cqe : Bytes
  completionBase : Nat
  completionIndex : Nat
  receiveIndex : Nat
  depth : Nat
  deriving DecidableEq, Repr

/-- A callback that the host holds. -/
inductive Callback where
  | descriptorFetched
  | continuationRead (gathering : Gathering)
  | contextRead (job : Job)
  | queryRead (job : Job)
  | queryWritten (job : Job)
  | recordWritten (writeBack : WriteBack)
  | blockWritten (emission : Emission)
  | interruptRaised
  | sqeFetched
  | payloadRead (sqe : Bytes)
  | replyWritten (reply : Reply)
  | cqeWritten (reply : Reply)
  deriving DecidableEq, Repr

/-- An activation that still has code to run. -/
inductive Task where
  /-- A host function that has not returned. -/
  | external
  | emitCtrlqResponse (event : Bytes)
  | emitMailboxEvent (sequence : Nat)
  | processNextUbase
  deriving DecidableEq, Repr

/-- What the engine does, in order.  `serial` numbers the commands at the head of the
ring: it is the number of commands written back before. -/
inductive Observation where
  | fetched (serial address : Nat)
  /-- The command changed a context or a TP route. -/
  | changed (serial : Nat)
  | csqDma (address : Nat) (bytes : Bytes)
  | responding (response count : Nat)
  | crqDma (response slot address : Nat) (bytes : Bytes)
  | published (response tail : Nat)
  | mailboxEvent (sequence : Nat)
  deriving DecidableEq, Repr

structure State where
  ubase : Words := fun _ => 0
  ubios : Words := fun _ => 0
  ubaseCommandSource : Nat := 0
  ubaseTargetProducer : Nat := 0
  ubiosTargetProducer : Nat := 0
  ubaseBusy : Bool := false
  ubiosBusy : Bool := false
  device : Device := {}
  /-- `pending_eq_destroy_`, `pending_jfc_destroy_` and `pending_queue_destroy_`. -/
  pendingDestroy : Option Job := none
  /-- What the other engines say: the busy resources, the links and whether an RMA
  request is pending. -/
  busy : Kind → Nat → Bool := fun _ _ => false
  linkUp : List Bool := []
  pendingRma : Bool := false
  ubiosRequests : List Bytes := []
  stack : List Task := []
  outstanding : List Callback := []
  crashed : Bool := false
  /-- History variables: the commands written back and the responses begun. -/
  serial : Nat := 0
  responses : Nat := 0
  trace : List Observation := []

/-- The constructed model. -/
def State.initial (config : Config) : State := { linkUp := List.replicate config.portCount true }

end Udma.Control
