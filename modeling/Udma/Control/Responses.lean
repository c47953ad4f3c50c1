import Udma.Control.State
import Udma.Cq.Machine

/-!
# Responses to commands

`BuildUbaseResponse` and `BuildCtrlqResponse`.  The first is a table; the second
checks a CtrlQ request, manages the TP routes and makes the event that answers it.
-/

namespace Udma.Control

open Udma.Abi
open Udma.Sq (TpRoute findRoute allocateTpId allocateTpPort)

def load16 (bytes : Bytes) (offset : Nat) : Nat :=
  byteAt bytes offset ||| (byteAt bytes (offset + 1) <<< 8)

def store16 (value : Nat) : Bytes := [UInt8.ofNat value, UInt8.ofNat (value >>> 8)]

/-- Replace the bytes from `offset` on. -/
def patch (bytes : Bytes) (field : Nat × Bytes) : Bytes :=
  bytes.take field.1 ++ field.2 ++ bytes.drop (field.1 + field.2.length)

theorem patch_length {bytes : Bytes} {field : Nat × Bytes}
    (inside : field.1 + field.2.length ≤ bytes.length) :
    (patch bytes field).length = bytes.length := by
  simp only [patch, List.length_append, List.length_take, List.length_drop]
  omega

/-- Zeros with some fields set, later fields over earlier ones. -/
def image (size : Nat) (fields : List (Nat × Bytes)) : Bytes :=
  fields.foldl patch (List.replicate size 0)

/-- The answers to queries; a command without one has an empty response. -/
def buildUbaseResponse (config : Config) (opcode : Nat) : Bytes :=
  if opcode = 0x0030 then
    image 312
      [(26, store16 1), (28, store16 1), (30, store16 1), (32, store16 64), (34, store16 64),
        (36, store16 64), (40, store32 512), (44, store32 4096),
        (48, store32 (config.maxJettys - config.publicJettys)),
        (56, store32 (config.maxJfsDepth * 4)), (60, store32 1024),
        (68, store32 config.maxJfrDepth), (84, store32 1024), (92, store32 config.maxJfcDepth),
        (192, store32 1), (224, store32 1024), (239, [1]), (256, store32 config.publicJettys),
        (264, store32 64), (268, store32 128)]
  else if opcode = 0x0002 then
    image 112
      [(0, store16 0xaaaa), (2, store16 64), (4, store16 0x6cac), (6, store16 0x1084),
        (8, store16 256), (10, store16 256), (16, store16 0x27), (18, store16 1),
        (24, store16 64), (26, store16 1), (28, store16 64), (30, store16 1), (32, store16 64),
        (34, store16 4), (44, [UInt8.ofNat (min config.portCount 255)]), (48, store16 128),
        (50, store16 128), (52, [64]), (58, store16 config.publicJettys),
        (76, store16 config.publicJettys),
        (78, store16 (config.maxJettys - config.publicJettys)), (80, store32 65536),
        (84, store32 65536), (88, store32 8), (92, store32 8)]
  else if opcode = 0x6200 then image 24 [(0, store32 400000), (14, [1])]
  else []

/-! ## CtrlQ requests -/

inductive CtrlqOpcode where
  | querySl
  | queryVl
  | init
  | querySeid
  | getTp
  | activate
  | deactivate
  | remove
  deriving DecidableEq, Repr

namespace CtrlqOpcode

def decode (service opcode : Nat) : Option CtrlqOpcode :=
  if service = 4 ∧ opcode = 2 then some querySl
  else if service = 4 ∧ opcode = 1 then some queryVl
  else if service = 2 ∧ opcode = 0x15 then some init
  else if service = 2 ∧ opcode = 0x01 then some querySeid
  else if service = 1 ∧ opcode = 0x21 then some getTp
  else if service = 1 ∧ opcode = 0x22 then some activate
  else if service = 1 ∧ opcode = 0x23 then some deactivate
  else if service = 1 ∧ opcode = 0x13 then some remove
  else none

def minInput : CtrlqOpcode → Nat
  | getTp => 36
  | activate => 24
  | deactivate => 12
  | remove => 4
  | _ => 0

def minOutput : CtrlqOpcode → Nat
  | querySl | queryVl => 20
  | querySeid => 100
  | getTp => 44
  | activate => 8
  | remove => 4
  | _ => 0

end CtrlqOpcode

/-- The bytes in front of the parameters of a request: the outer and the inner header. -/
def headerBytes : Nat := 28

/-- The event before its parameters are filled in. -/
def blankEvent (request : Bytes) (output : Nat) : Bytes :=
  [(10, store16 output), (12, store16 0), (14, [2])].foldl patch
    (request.take headerBytes ++ List.replicate output 0)

/-- One of the four entries of the SEID table. -/
def seidEntry (config : Config) (index : Nat) : List (Nat × Bytes) :=
  let eid := config.endpointEid + index * 0x10000
  let entry := headerBytes + 4 + index * 24
  [(entry, store32 index), (entry + 4, [UInt8.ofNat eid]), (entry + 5, [UInt8.ofNat (eid >>> 8)]),
    (entry + 6, [UInt8.ofNat (eid >>> 16)]), (entry + 20, store32 0x7fff)]

/-- `get_tp`: allocate a TP number and a port. -/
def getTp (config : Config) (device : Device) (linkUp : List Bool) (request event : Bytes) :
    Device × Except Nat Bytes :=
  let localEid := load32 request headerBytes &&& 0xfffff
  let remoteEid := load32 request (headerBytes + 16) &&& 0xfffff
  if 1023 ≤ device.tpRoutes.length then (device, .error 28)
  else if localEid = 0 ∨ remoteEid = 0 then (device, .error 22)
  else
    let chosen := allocateTpId device.tpRoutes 1023 device.nextTpId device.nextTpId
    let found := allocateTpPort linkUp config.portCount config.portCount device.nextTpPort
    let advanced := { device with nextTpId := chosen.2, nextTpPort := found.2 }
    match found.1 with
    | none => (advanced, .error 100)
    | some port =>
        if (findRoute device.tpRoutes chosen.1).isSome then (advanced, .error 28)
        else
          ({ advanced with
              tpRoutes := device.tpRoutes ++ [⟨chosen.1, localEid, remoteEid, port, false⟩] },
            .ok ([(headerBytes, store32 1), (headerBytes + 4, store32 (chosen.1 ||| (1 <<< 24))),
              (headerBytes + 8, store32 chosen.1)].foldl patch event))

/-- `activate` and `deactivate`. -/
def setTpActive (device : Device) (linkUp : List Bool) (active : Bool) (request event : Bytes) :
    Device × Except Nat Bytes :=
  let id := load32 request headerBytes &&& 0xffffff
  match findRoute device.tpRoutes id with
  | none => (device, .error 2)
  | some route =>
      if active ∧ ¬ linkUp.getD route.port false then (device, .error 100)
      else
        ({ device with
            tpRoutes := device.tpRoutes.map fun other =>
              if other.id = id then { other with active := active } else other },
          .ok (if active then patch event (headerBytes, (request.drop headerBytes).take 8)
            else event))

/-- `remove`: not while the TP is active or an RMA request is pending. -/
def removeTp (device : Device) (pendingRma : Bool) (request event : Bytes) :
    Device × Except Nat Bytes :=
  let tpn := load32 request headerBytes &&& 0xffffff
  match findRoute device.tpRoutes tpn with
  | none => (device, .error 2)
  | some route =>
      if route.active ∨ pendingRma then (device, .error 16)
      else
        ({ device with tpRoutes := device.tpRoutes.filter fun other => !(other.id == tpn) },
          .ok event)

/-- An error is the status that the guest gets; `crqDepth` is the depth of the response
ring, which the event must fit. -/
def buildCtrlqResponse (config : Config) (device : Device) (linkUp : List Bool)
    (pendingRma : Bool) (crqDepth : Nat) (request : Bytes) : Device × Except Nat Bytes :=
  if request.length < headerBytes ∨ load16 request 4 ≠ 3 then (device, .error 22)
  else
    let input := load16 request 10
    let output := load16 request 12
    if request.length - headerBytes < input then (device, .error 22)
    else
      match CtrlqOpcode.decode (byteAt request 17) (byteAt request 19) with
      | none => (device, .error 95)
      | some opcode =>
          if input < opcode.minInput ∨ output < opcode.minOutput then (device, .error 22)
          else if crqDepth * 32 ≤ headerBytes + output + 8 then (device, .error 90)
          else
            let event := blankEvent request output
            match opcode with
            | .querySl => (device, .ok ([(headerBytes, [1]), (headerBytes + 4, [1]),
                (headerBytes + 6, [1]), (headerBytes + 3, [4])].foldl patch event))
            | .queryVl => (device, .ok (patch event (headerBytes, [1])))
            | .init => (device, .ok event)
            | .querySeid => (device, .ok (((headerBytes, [4]) ::
                (List.range 4).flatMap (seidEntry config)).foldl patch event))
            | .getTp => getTp config device linkUp request event
            | .activate => setTpActive device linkUp true request event
            | .deactivate => setTpActive device linkUp false request event
            | .remove => removeTp device pendingRma request event

/-! ## Mailbox commands -/

/-- The commands of the mailbox. -/
inductive Mailbox where
  | create (kind : Kind)
  | destroy (kind : Kind)
  | queryJetty
  | queryJfc
  | modifyJfc
  | other
  deriving DecidableEq, Repr

def Mailbox.decode : Nat → Mailbox
  | 0x04 => .create .jetty
  | 0x06 => .queryJetty
  | 0x07 => .destroy .jetty
  | 0x24 => .create .jfc
  | 0x25 => .modifyJfc
  | 0x26 => .queryJfc
  | 0x27 => .destroy .jfc
  | 0x34 => .create .aeq
  | 0x37 => .destroy .aeq
  | 0x44 => .create .ceq
  | 0x47 => .destroy .ceq
  | 0x54 => .create .jfr
  | 0x57 => .destroy .jfr
  | _ => .other

namespace Job

def mailbox (job : Job) : Mailbox := .decode (byteAt job.descriptor 16)
def tag (job : Job) : Nat := load32 job.descriptor 16 >>> 8
def contextIova (job : Job) : Nat := load64 job.descriptor 8
def control (job : Job) : Nat := load32 job.descriptor 20

/-- A mailbox command may ask for an event when it is done. -/
def mailboxEvent (job : Job) : After :=
  if job.control &&& (1 <<< 16) = 0 then .nothing else .mailboxEvent (job.control % 2 ^ 16)

end Job

/-- The number of context bytes a command reads. -/
def Mailbox.contextBytes : Mailbox → Nat
  | .modifyJfc => 256
  | .create .aeq | .create .ceq => 64
  | _ => 128

/-- The checks of `ApplyUbaseMailbox` on the context of a create command. -/
def acceptable (kind : Kind) (tag : Nat) (context : Bytes) : Bool :=
  let dw := Cq.word context
  match kind with
  | .jetty => ((dw 2 <<< 20) ||| (dw 1 >>> 12)) <<< 12 != 0
  | .jfc => (Cq.decodeJfc context 0).isSome
  | .jfr =>
      ((dw 2 <<< 20) ||| (dw 1 >>> 12)) <<< 12 != 0 &&
        (((dw 9 &&& 0xfffff) <<< 32) ||| dw 8) <<< 12 != 0 &&
        (((dw 12 &&& 3) <<< 56) ||| (dw 11 <<< 24) ||| (dw 10 >>> 8)) <<< 6 != 0
  | .aeq => dw 1 &&& 0x1f < 26 && ((dw 3 <<< 20) ||| (dw 2 >>> 12)) <<< 12 != 0
  | .ceq => (Cq.decodeCeq tag context).isSome

/-- The context of a JFC after a modify command, whose second half is the mask. -/
def modifyJfc (old context : Bytes) : Bytes :=
  let counted := if Cq.word context 36 &&& (0x3ff <<< 22) = 0 then
      Cq.setBits old 4 0xffc00000 (Cq.word context 4)
    else old
  if Cq.word context 37 &&& (7 <<< 22) = 0 then Cq.setBits counted 5 0x01c00000 (Cq.word context 5)
  else counted

/-- The number of contexts of a kind. -/
def Device.count (device : Device) (kind : Kind) : Nat :=
  (device.contexts.keys.filter fun key => key.1 == kind).length

def Device.install (device : Device) (kind : Kind) (tag : Nat) (context : Bytes) : Device :=
  { device with
    contexts := device.contexts.insert (kind, tag) context
    jfcQueryContexts :=
      if kind = .jfc then tag :: device.jfcQueryContexts else device.jfcQueryContexts }

def Device.erase (device : Device) (kind : Kind) (tag : Nat) : Device :=
  { device with contexts := device.contexts.erase (kind, tag) }

end Udma.Control
