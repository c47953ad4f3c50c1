import Udma.Arithmetic.LittleEndian

/-!
# The UDMA wire format

`device::Frame` is what the model hands to the network, `UdmaWireHeader` what
stands in front of each piece of it on the wire, `Message` one entry of the ring.
-/

namespace Udma.Wire

open Udma.Arithmetic

abbrev Bytes := List UInt8

/-- `Frame::Operation`; a cast from the wire may yield any other code. -/
inductive Operation where
  | send
  | sendImmediate
  | write
  | readRequest
  | writeAck
  | readResponse
  | rmaError
  | raw
  | unknown (code : UInt8)
  deriving DecidableEq, Repr

namespace Operation

def code : Operation → UInt8
  | send => 0
  | sendImmediate => 1
  | write => 3
  | readRequest => 6
  | writeAck => 0x83
  | readResponse => 0x85
  | rmaError => 0x86
  | raw => 0xff
  | unknown code => code

def ofCode (code : UInt8) : Operation :=
  if code = 0 then send
  else if code = 1 then sendImmediate
  else if code = 3 then write
  else if code = 6 then readRequest
  else if code = 0x83 then writeAck
  else if code = 0x85 then readResponse
  else if code = 0x86 then rmaError
  else if code = 0xff then raw
  else unknown code

/-- The operations of a complete WQE. -/
def request : Operation → Bool
  | send | sendImmediate | write | readRequest => true
  | _ => false

def targetCompletion : Operation → Bool
  | writeAck | readResponse | rmaError => true
  | _ => false

theorem ofCode_code {operation : Operation} (known : operation.request = true) :
    ofCode operation.code = operation := by
  cases operation <;> first | rfl | simp [request] at known

end Operation

structure Frame where
  sequence : UInt64
  sourceEid : UInt32
  destinationEid : UInt32
  sourcePort : UInt16
  destinationPort : UInt16
  operation : Operation
  orderType : UInt8
  sourceJetty : UInt32
  destinationJetty : UInt32
  tpn : UInt32
  segment : UInt32
  remoteAddress : UInt64
  immediate : UInt64
  requestId : UInt64
  taSsn : UInt32
  transactionOffset : UInt32
  transferLength : UInt32
  bytes : Bytes
  deriving DecidableEq, Repr

structure Header where
  magic : UInt32
  version : UInt8
  operation : UInt8
  flags : UInt16
  sourceJetty : UInt32
  destinationJetty : UInt32
  tpn : UInt32
  segment : UInt32
  remoteAddress : UInt64
  immediate : UInt64
  requestId : UInt64
  taSsn : UInt32
  transferLength : UInt32
  payloadLength : UInt32
  payloadOffset : UInt32
  deriving DecidableEq, Repr

def wireMagic : UInt32 := 0x31574455
def wireVersion : UInt8 := 3
def fragmentedFlag : UInt16 := 1
def lastFragmentFlag : UInt16 := 2
def ctpSegmentFlag : UInt16 := 4
def messageBytes : Nat := 64
def headerBytes : Nat := 64
def ctpMaxSegmentBytes : Nat := 4 * 1024

/-- `UdmaWireOrder` of an order type. -/
def orderFlags (order : UInt8) : UInt16 := (order &&& 3).toUInt16 <<< 8

/-- `UdmaWireOrder` of the flags. -/
def orderOf (flags : UInt16) : UInt8 := ((flags &&& 0x300) >>> 8).toUInt8

namespace Header

/-- The packed layout of the header. -/
def fields (header : Header) : List (Nat × Nat) :=
  [(4, header.magic.toNat), (1, header.version.toNat), (1, header.operation.toNat),
    (2, header.flags.toNat), (4, header.sourceJetty.toNat), (4, header.destinationJetty.toNat),
    (4, header.tpn.toNat), (4, header.segment.toNat), (8, header.remoteAddress.toNat),
    (8, header.immediate.toNat), (8, header.requestId.toNat), (4, header.taSsn.toNat),
    (4, header.transferLength.toNat), (4, header.payloadLength.toNat),
    (4, header.payloadOffset.toNat)]

def widths : List Nat := [4, 1, 1, 2, 4, 4, 4, 4, 8, 8, 8, 4, 4, 4, 4]

def encode (header : Header) : Bytes := packFields header.fields

/-- The header at the front of a buffer. -/
def decode (bytes : Bytes) : Option Header :=
  match unpackFields widths bytes with
  | [magic, version, operation, flags, sourceJetty, destinationJetty, tpn, segment,
      remoteAddress, immediate, requestId, taSsn, transferLength, payloadLength,
      payloadOffset] =>
      some
        { magic := .ofNat magic, version := .ofNat version, operation := .ofNat operation
          flags := .ofNat flags, sourceJetty := .ofNat sourceJetty
          destinationJetty := .ofNat destinationJetty, tpn := .ofNat tpn
          segment := .ofNat segment, remoteAddress := .ofNat remoteAddress
          immediate := .ofNat immediate, requestId := .ofNat requestId, taSsn := .ofNat taSsn
          transferLength := .ofNat transferLength, payloadLength := .ofNat payloadLength
          payloadOffset := .ofNat payloadOffset }
  | _ => none

@[simp]
theorem encode_length (header : Header) : header.encode.length = headerBytes := by
  rw [encode, packFields_length]
  rfl

theorem mod_of_field8 (value : UInt8) : value.toNat % 256 ^ 1 = value.toNat :=
  Nat.mod_eq_of_lt value.toNat_lt

theorem mod_of_field16 (value : UInt16) : value.toNat % 256 ^ 2 = value.toNat :=
  Nat.mod_eq_of_lt value.toNat_lt

theorem mod_of_field32 (value : UInt32) : value.toNat % 256 ^ 4 = value.toNat :=
  Nat.mod_eq_of_lt value.toNat_lt

theorem mod_of_field64 (value : UInt64) : value.toNat % 256 ^ 8 = value.toNat :=
  Nat.mod_eq_of_lt value.toNat_lt

/-- A header is read back from in front of its payload. -/
theorem decode_encode (header : Header) (payload : Bytes) :
    decode (header.encode ++ payload) = some header := by
  have unpacked : unpackFields widths (header.encode ++ payload) =
      header.fields.map fun field => field.2 % 256 ^ field.1 :=
    unpackFields_packFields header.fields payload
  unfold decode
  rw [unpacked]
  simp only [fields, List.map_cons, List.map_nil, mod_of_field8, mod_of_field16,
    mod_of_field32, mod_of_field64, UInt8.ofNat_toNat, UInt16.ofNat_toNat, UInt32.ofNat_toNat,
    UInt64.ofNat_toNat]

end Header

/-- An entry of a ring that carries a piece of a frame. -/
structure Message where
  sequence : UInt64
  sourceEid : UInt32
  destinationEid : UInt32
  sourcePort : UInt16
  destinationPort : UInt16
  bytes : Bytes
  deriving DecidableEq, Repr

/-- Rings whose entries hold at least the message itself. -/
structure Ring where
  entryBytes : Nat
  wide : messageBytes ≤ entryBytes

namespace Ring

variable (ring : Ring)

/-- What `SendWire` may put behind the message. -/
def capacity : Nat := ring.entryBytes - messageBytes

/-- What `Send` puts behind message and header. -/
def payloadCapacity : Nat := ring.entryBytes - messageBytes - headerBytes

end Ring

end Udma.Wire
