import Udma.Transition.Keyed
import Udma.Wire.Outgoing

/-!
# The two reassemblers

`NetworkPort::Poll` puts the fragments of a frame together in the device that
receives them, `UbNetFabric::AcceptWqeChunk` does so in the fabric.  Both keep one
partial entry for each key and are otherwise independent of each other.
-/

namespace Udma.Wire

open Udma.Transition

/-! ## The device -/

structure PartialFrame where
  frame : Frame
  nextOffset : Nat
  deriving DecidableEq

/-- `fragment_key`. -/
def Message.key (message : Message) : UInt32 × UInt64 := (message.sourceEid, message.sequence)

/-- A message that carries no UDMA header. -/
def Message.rawFrame (message : Message) : Frame where
  sequence := message.sequence
  sourceEid := message.sourceEid
  destinationEid := message.destinationEid
  sourcePort := message.sourcePort
  destinationPort := message.destinationPort
  operation := .raw
  orderType := 0
  sourceJetty := 0
  destinationJetty := 0
  tpn := 0
  segment := 0
  remoteAddress := 0
  immediate := 0
  requestId := 0
  taSsn := 0
  transactionOffset := 0
  transferLength := 0
  bytes := message.bytes

/-- The frame a message with this header stands for. -/
def Message.frame (message : Message) (header : Header) : Frame :=
  { message.rawFrame with
    operation := .ofCode header.operation
    orderType := orderOf header.flags
    sourceJetty := header.sourceJetty
    destinationJetty := header.destinationJetty
    tpn := header.tpn
    segment := header.segment
    remoteAddress := header.remoteAddress
    immediate := header.immediate
    requestId := header.requestId
    taSsn := header.taSsn
    transactionOffset := header.payloadOffset
    transferLength := header.transferLength
    bytes := message.bytes.drop headerBytes }

/-- The metadata that must not change between the fragments of a frame. -/
def Frame.sameMetadata (frame other : Frame) : Bool :=
  frame.transferLength == other.transferLength && frame.sourceEid == other.sourceEid &&
    frame.destinationEid == other.destinationEid && frame.sourcePort == other.sourcePort &&
    frame.destinationPort == other.destinationPort && frame.operation == other.operation &&
    frame.orderType == other.orderType && frame.tpn == other.tpn &&
    frame.segment == other.segment && frame.remoteAddress == other.remoteAddress &&
    frame.immediate == other.immediate && frame.sourceJetty == other.sourceJetty &&
    frame.destinationJetty == other.destinationJetty && frame.requestId == other.requestId

def Header.fragmented (header : Header) : Bool := header.flags &&& fragmentedFlag != 0
def Header.last (header : Header) : Bool := header.flags &&& lastFragmentFlag != 0
def Header.ctpSegment (header : Header) : Bool := header.flags &&& ctpSegmentFlag != 0

/-- The extent check of a fragment. -/
def Header.extentValid (header : Header) : Bool :=
  header.transferLength != 0 && header.payloadLength != 0 &&
    decide (header.payloadOffset.toNat ≤ header.transferLength.toNat) &&
    decide (header.payloadLength.toNat ≤
      header.transferLength.toNat - header.payloadOffset.toNat) &&
    header.last == decide (header.payloadLength.toNat =
      header.transferLength.toNat - header.payloadOffset.toNat)

/-- The reassembly of `Poll` for the fragments of one key. -/
def acceptFragment (entry : Option PartialFrame) (frame : Frame) (header : Header) :
    Option (Option PartialFrame × List Frame) :=
  if !header.extentValid then none
  else if (header.payloadOffset == 0) ≠ entry.isNone then none
  else
    let current :=
      match entry with
      | some current => current
      | none => ⟨{ frame with bytes := [] }, 0⟩
    if header.payloadOffset.toNat ≠ current.nextOffset ∨
        !frame.sameMetadata current.frame then none
    else
      let bytes := current.frame.bytes ++ frame.bytes
      if header.last then some (none, [{ current.frame with bytes := bytes }])
      else
        some (some ⟨{ current.frame with bytes := bytes },
          current.nextOffset + frame.bytes.length⟩, [])

/-- The frame branch of `Poll`, with the frames it passes to the model; an exception is no
result. -/
def pollFrame (inElen : Nat) : EntryStep PartialFrame Message Frame
  | entry, message =>
      if inElen < messageBytes ∨ inElen - messageBytes < message.bytes.length then none
      else if message.bytes.length < headerBytes then some (entry, [message.rawFrame])
      else
        match Header.decode message.bytes with
        | none => none
        | some header =>
            if header.magic ≠ wireMagic then some (entry, [message.rawFrame])
            else if header.version ≠ wireVersion ∨
                header.payloadLength.toNat ≠ message.bytes.length - headerBytes then none
            else if header.fragmented && !header.ctpSegment then
              acceptFragment entry (message.frame header) header
            else some (entry, [message.frame header])

/-! ## The fabric -/

structure PartialWqe where
  /-- The routing fields of the first chunk. -/
  frame : Message
  wire : Header
  payload : Bytes
  nextOffset : Nat
  deriving DecidableEq

/-- `OrderType::ORDER_STRONG`. -/
def orderStrong : UInt8 := 2

/-- `AcceptWqeChunk` for the chunks of one sequence number of an endpoint, with the WQEs it
submits. -/
def acceptWqeChunk (entry : Option PartialWqe) (frame : Message) (wire : Header)
    (payload : Bytes) : Option (Option PartialWqe × List PartialWqe) :=
  let operation := Operation.ofCode wire.operation
  let read := operation == .readRequest
  if !operation.request || operation.targetCompletion ||
      decide (wire.transferLength < wire.payloadOffset + wire.payloadLength) ||
      decide (orderStrong < orderOf wire.flags) then none
  else if read && (wire.payloadLength != 0 || wire.payloadOffset != 0) then none
  else
    let begun : Option PartialWqe :=
      match entry with
      | none =>
          if wire.payloadOffset ≠ 0 then none
          else some ⟨{ frame with bytes := [] }, wire, [], 0⟩
      | some current =>
          if wire.payloadOffset.toNat ≠ current.nextOffset ∨
              wire.operation ≠ current.wire.operation ∨
              wire.requestId ≠ current.wire.requestId ∨
              wire.transferLength ≠ current.wire.transferLength then none
          else some current
    match begun with
    | none => none
    | some current =>
        let complete := { current with
          payload := current.payload ++ payload
          nextOffset := current.nextOffset + wire.payloadLength.toNat }
        if !wire.last then some (some complete, [])
        else if complete.payload.length ≠ (if read then 0 else wire.transferLength.toNat) then none
        else some (none, [complete])

/-- The chunk in a message, which `PollOne` has found to be an envelope. -/
def acceptMessage : EntryStep PartialWqe (Nat × Message) PartialWqe
  | entry, (_, message) =>
      match Header.decode message.bytes with
      | none => none
      | some wire => acceptWqeChunk entry message wire (message.bytes.drop headerBytes)

/-- Source endpoint and sequence number. -/
def chunkKey (item : Nat × Message) : Nat × UInt64 := (item.1, item.2.sequence)

/-! ## What the encoder writes -/

/-- What the model promises of a request that it sends: lengths have 32 bits, the order two,
and a READ request carries nothing. -/
structure Frame.Promised (frame : Frame) : Prop where
  small : frame.bytes.length < 2 ^ 32
  order : frame.orderType.toNat < 4
  empty : frame.operation = .readRequest → frame.bytes = []

/-- The frame as it arrives. -/
def Frame.normalised (frame : Frame) : Frame :=
  { frame with
    taSsn := 0
    transactionOffset := 0
    transferLength := .ofNat frame.logicalTotal
    bytes := frame.payload }

theorem order_cases {order : UInt8} (small : order.toNat < 4) :
    order = 0 ∨ order = 1 ∨ order = 2 ∨ order = 3 := by
  simp only [← UInt8.toNat_inj]
  simp
  omega

theorem flags_read (order : UInt8) (small : order.toNat < 4) (cut final : Bool) :
    orderOf (0 ||| orderFlags order ||| (if cut then fragmentedFlag else 0) |||
        (if final then lastFragmentFlag else 0)) = order ∧
    ((0 ||| orderFlags order ||| (if cut then fragmentedFlag else 0) |||
        (if final then lastFragmentFlag else 0)) &&& fragmentedFlag != 0) = cut ∧
    ((0 ||| orderFlags order ||| (if cut then fragmentedFlag else 0) |||
        (if final then lastFragmentFlag else 0)) &&& lastFragmentFlag != 0) = final ∧
    ((0 ||| orderFlags order ||| (if cut then fragmentedFlag else 0) |||
        (if final then lastFragmentFlag else 0)) &&& ctpSegmentFlag != 0) = false := by
  rcases order_cases small with rfl | rfl | rfl | rfl <;> cases cut <;> cases final <;> decide

theorem completion_flag (order : UInt8) (small : order.toNat < 4) :
    ((ctpSegmentFlag ||| orderFlags order ||| 0 ||| lastFragmentFlag) &&& ctpSegmentFlag != 0) =
      true := by
  rcases order_cases small with rfl | rfl | rfl | rfl <;> decide

namespace Frame

variable {ring : Ring} {frame : Frame}

theorem Promised.payload_lt (promised : frame.Promised) : frame.payload.length < 2 ^ 32 := by
  unfold payload
  split
  · decide
  · exact promised.small

/-- Except for a READ request, the announced length is that of the payload. -/
theorem logicalTotal_eq (carried : frame.operation ≠ .readRequest) :
    frame.logicalTotal = frame.payload.length := by
  simp [logicalTotal, payload, carried]

theorem toNat_ofNat_of_small {value : Nat} (small : value < 2 ^ 32) :
    (UInt32.ofNat value).toNat = value := by
  rw [UInt32.toNat_ofNat', Nat.mod_eq_of_lt small]

section Encoded

variable (request : frame.operation.request = true) (promised : frame.Promised)
include request

theorem flags_of_request (offset : Nat) :
    frame.flags ring offset = 0 ||| orderFlags frame.orderType |||
      (if frame.fragmented ring then fragmentedFlag else 0) |||
      (if frame.isLast ring offset then lastFragmentFlag else 0) := by
  simp [flags, request_not_completion request]

include promised

theorem header_orderOf (offset : Nat) :
    orderOf (frame.header ring offset).flags = frame.orderType := by
  show orderOf (frame.flags ring offset) = _
  rw [flags_of_request request]
  exact (flags_read _ promised.order _ _).1

theorem header_fragmented (offset : Nat) :
    (frame.header ring offset).fragmented = frame.fragmented ring := by
  show (frame.flags ring offset &&& fragmentedFlag != 0) = _
  rw [flags_of_request request]
  exact (flags_read _ promised.order _ _).2.1

theorem header_last (offset : Nat) :
    (frame.header ring offset).last = frame.isLast ring offset := by
  show (frame.flags ring offset &&& lastFragmentFlag != 0) = _
  rw [flags_of_request request]
  exact (flags_read _ promised.order _ _).2.2.1

theorem header_ctpSegment (offset : Nat) : (frame.header ring offset).ctpSegment = false := by
  show (frame.flags ring offset &&& ctpSegmentFlag != 0) = _
  rw [flags_of_request request]
  exact (flags_read _ promised.order _ _).2.2.2

theorem header_payloadLength (offset : Nat) :
    (frame.header ring offset).payloadLength.toNat = frame.chunk ring offset := by
  have small := promised.payload_lt
  have chunk : frame.chunk ring offset = _ := chunk_of_request request offset
  exact toNat_ofNat_of_small (by omega)

theorem header_payloadOffset {offset : Nat} (inside : offset ≤ frame.payload.length) :
    (frame.header ring offset).payloadOffset.toNat = offset := by
  have small := promised.payload_lt
  have plain : (frame.header ring offset).payloadOffset = .ofNat offset := by
    simp [header, request_not_completion request]
  rw [plain]
  exact toNat_ofNat_of_small (by omega)

theorem header_transferLength (carried : frame.operation ≠ .readRequest) (offset : Nat) :
    (frame.header ring offset).transferLength.toNat = frame.payload.length := by
  have plain : (frame.header ring offset).transferLength = .ofNat frame.logicalTotal := by
    simp [header, request]
  rw [plain, logicalTotal_eq carried]
  exact toNat_ofNat_of_small promised.payload_lt

/-- The frame that the message with the piece at `offset` stands for. -/
theorem frame_of_fragment (offset : Nat) :
    (wireMessage frame (frame.fragment ring offset)).frame (frame.header ring offset) =
      { frame.normalised with
        transactionOffset := .ofNat offset
        bytes := (frame.payload.drop offset).take (frame.chunk ring offset) } := by
  have order : orderOf (frame.header ring offset).flags = _ :=
    header_orderOf request promised offset
  have operation := Operation.ofCode_code request
  have behind : (frame.fragment ring offset).drop headerBytes =
      (frame.payload.drop offset).take (frame.chunk ring offset) :=
    List.drop_left' (Header.encode_length _)
  simp only [Message.frame, Message.rawFrame, wireMessage, order, behind, normalised]
  simp [header, operation, request, request_not_completion request]

/-- `Poll` finds the header of a piece and that it is not a target completion. -/
theorem pollFrame_fragment {inElen : Nat} (slots : ring.entryBytes ≤ inElen)
    (room : messageBytes + headerBytes < ring.entryBytes) (entry : Option PartialFrame)
    (offset : Nat) :
    pollFrame inElen entry (wireMessage frame (frame.fragment ring offset)) =
      if frame.fragmented ring then
        acceptFragment entry
          { frame.normalised with
            transactionOffset := .ofNat offset
            bytes := (frame.payload.drop offset).take (frame.chunk ring offset) }
          (frame.header ring offset)
      else
        some (entry, [{ frame.normalised with
          transactionOffset := .ofNat offset
          bytes := (frame.payload.drop offset).take (frame.chunk ring offset) }]) := by
  have chunk : frame.chunk ring offset =
      min ring.payloadCapacity (frame.payload.length - offset) := chunk_of_request request offset
  have length : (frame.fragment ring offset).length = headerBytes + frame.chunk ring offset := by
    rw [fragment_length]
    omega
  have decoded : Header.decode (frame.fragment ring offset) = some (frame.header ring offset) :=
    Header.decode_encode _ _
  have size : (frame.header ring offset).payloadLength.toNat = frame.chunk ring offset :=
    header_payloadLength request promised offset
  have fits : ¬ (inElen < messageBytes ∨
      inElen - messageBytes < (frame.fragment ring offset).length) := by
    unfold Ring.payloadCapacity at chunk
    omega
  have long : ¬ (frame.fragment ring offset).length < headerBytes := by omega
  have magic : (frame.header ring offset).magic = wireMagic := rfl
  have version : (frame.header ring offset).version = wireVersion := rfl
  have whole : (frame.header ring offset).payloadLength.toNat =
      (frame.fragment ring offset).length - headerBytes := by omega
  have stands : (wireMessage frame (frame.fragment ring offset)).frame
      (frame.header ring offset) = _ := frame_of_fragment request promised offset
  have bytes : (wireMessage frame (frame.fragment ring offset)).bytes =
      frame.fragment ring offset := rfl
  simp only [pollFrame, bytes, fits, long, if_false, decoded, magic, version, whole, stands,
    header_fragmented request promised, header_ctpSegment request promised, ne_eq,
    not_true_eq_false, or_self, Bool.not_false, Bool.and_true]

/-- What `Poll` keeps of a frame after the pieces before `offset`. -/
def partialAt (frame : Frame) (offset : Nat) : Option PartialFrame :=
  if offset = 0 then none
  else some ⟨{ frame.normalised with bytes := frame.payload.take offset }, offset⟩

/-- One piece of a frame that is cut. -/
theorem acceptFragment_piece (carried : frame.operation ≠ .readRequest)
    (room : messageBytes + headerBytes < ring.entryBytes) {offset : Nat}
    (inside : offset < frame.payload.length) :
    acceptFragment (frame.partialAt offset)
        { frame.normalised with
          transactionOffset := .ofNat offset
          bytes := (frame.payload.drop offset).take (frame.chunk ring offset) }
        (frame.header ring offset) =
      if offset + frame.chunk ring offset < frame.payload.length then
        some (frame.partialAt (offset + frame.chunk ring offset), [])
      else some (none, [frame.normalised]) := by
  have chunk : frame.chunk ring offset =
      min ring.payloadCapacity (frame.payload.length - offset) := chunk_of_request request offset
  have size : (frame.header ring offset).payloadLength.toNat = frame.chunk ring offset :=
    header_payloadLength request promised offset
  have place : (frame.header ring offset).payloadOffset.toNat = offset :=
    header_payloadOffset request promised (Nat.le_of_lt inside)
  have total : (frame.header ring offset).transferLength.toNat = frame.payload.length :=
    header_transferLength request promised carried offset
  have final : (frame.header ring offset).last =
      decide (offset + frame.chunk ring offset = frame.payload.length) := by
    rw [header_last request promised]
    simp [isLast, request_not_completion request]
  have positive : 0 < frame.chunk ring offset := by
    unfold Ring.payloadCapacity at chunk
    omega
  have zero : ((frame.header ring offset).payloadOffset == 0) = decide (offset = 0) := by
    rw [beq_eq_decide, decide_eq_decide, ← UInt32.toNat_inj, place]
    rfl
  have valid : (frame.header ring offset).extentValid = true := by
    have named : (frame.header ring offset).transferLength ≠ 0 := by
      intro none
      rw [none] at total
      simp at total
      omega
    have counted : (frame.header ring offset).payloadLength ≠ 0 := by
      intro none
      rw [none] at size
      simp at size
      omega
    simp only [Header.extentValid, final, size, place, total, Bool.and_eq_true, bne_iff_ne, ne_eq,
      named, counted, not_false_eq_true, decide_eq_true_eq, true_and, beq_iff_eq, decide_eq_decide]
    omega
  have first : (frame.partialAt offset).isNone = decide (offset = 0) := by
    unfold partialAt
    split <;> simp_all
  have current : (match frame.partialAt offset with
      | some current => current
      | none => (⟨{ frame.normalised with
          transactionOffset := .ofNat offset, bytes := [] }, 0⟩ : PartialFrame)) =
      ⟨{ frame.normalised with bytes := frame.payload.take offset }, offset⟩ := by
    by_cases start : offset = 0
    · subst start
      simp [partialAt, normalised]
    · simp [partialAt, start]
  have joined : frame.payload.take offset ++
      (frame.payload.drop offset).take (frame.chunk ring offset) =
        frame.payload.take (offset + frame.chunk ring offset) := (List.take_add ..).symm
  have same : Frame.sameMetadata { frame.normalised with
      transactionOffset := .ofNat offset
      bytes := (frame.payload.drop offset).take (frame.chunk ring offset) }
      { frame.normalised with bytes := frame.payload.take offset } = true := by
    simp [sameMetadata]
  have moved : ((frame.payload.drop offset).take (frame.chunk ring offset)).length =
      frame.chunk ring offset := by
    rw [List.length_take, List.length_drop]
    omega
  simp only [acceptFragment, valid, Bool.not_true, Bool.false_eq_true, if_false, zero, first,
    ne_eq, not_true_eq_false, current, place, same, or_self, joined, final, moved]
  by_cases last : offset + frame.chunk ring offset = frame.payload.length
  · have whole : frame.payload.take (offset + frame.chunk ring offset) = frame.payload := by
      rw [last]
      exact List.take_length
    have stop : ¬ offset + frame.chunk ring offset < frame.payload.length := by omega
    simp only [last, decide_true, if_true, Nat.lt_irrefl, if_false]
    rw [← last, whole]
    rfl
  · have more : offset + frame.chunk ring offset < frame.payload.length := by omega
    have later : offset + frame.chunk ring offset ≠ 0 := by omega
    have unfinished : ¬ decide (offset + frame.chunk ring offset = frame.payload.length) = true := by
      simpa using last
    rw [if_neg unfinished, if_pos more]
    unfold partialAt
    rw [if_neg later]

/-- A frame that is cut is put together again. -/
theorem poll_cut {inElen : Nat} (slots : ring.entryBytes ≤ inElen)
    (room : messageBytes + headerBytes < ring.entryBytes) (cut : frame.fragmented ring = true)
    {iterations offset : Nat} (inside : offset < frame.payload.length)
    (enough : frame.payload.length - offset ≤ iterations) :
    entryRun (pollFrame inElen)
      ((frame.fragments ring iterations offset).map (wireMessage frame))
      (frame.partialAt offset) = some (none, [frame.normalised]) := by
  have carried : frame.operation ≠ .readRequest := by
    intro read
    simp [payload, read] at inside
  induction iterations generalizing offset with
  | zero => omega
  | succ iterations inductionHypothesis =>
      have chunk : frame.chunk ring offset =
          min ring.payloadCapacity (frame.payload.length - offset) :=
        chunk_of_request request offset
      have piece : pollFrame inElen (frame.partialAt offset)
          (wireMessage frame (frame.fragment ring offset)) =
            if offset + frame.chunk ring offset < frame.payload.length then
              some (frame.partialAt (offset + frame.chunk ring offset), [])
            else some (none, [frame.normalised]) := by
        rw [pollFrame_fragment request promised slots room, if_pos cut]
        exact acceptFragment_piece request promised carried room inside
      unfold fragments
      by_cases more : offset + frame.chunk ring offset < frame.payload.length
      · have later := inductionHypothesis more (by
          unfold Ring.payloadCapacity at chunk
          omega)
        rw [if_pos more, List.map_cons, entryRun, piece, if_pos more]
        dsimp only
        rw [later]
        rfl
      · rw [if_neg more, List.map_cons, entryRun, piece, if_neg more]
        rfl

/-- A frame that fits one entry arrives as it is. -/
theorem poll_whole {inElen : Nat} (slots : ring.entryBytes ≤ inElen)
    (room : messageBytes + headerBytes < ring.entryBytes) (whole : frame.fragmented ring = false)
    (iterations : Nat) :
    entryRun (pollFrame inElen)
      ((frame.fragments ring iterations 0).map (wireMessage frame)) none =
        some (none, [frame.normalised]) := by
  have chunk : frame.chunk ring 0 = frame.payload.length := by
    have cut : frame.chunk ring 0 = _ := chunk_of_request request 0
    simp only [fragmented, request_not_completion request, Bool.not_false, Bool.true_and,
      decide_eq_false_iff_not] at whole
    omega
  have single : frame.fragments ring iterations 0 = [frame.fragment ring 0] := by
    cases iterations with
    | zero => rfl
    | succ iterations => simp [fragments, chunk]
  rw [single, List.map_singleton, entryRun, pollFrame_fragment request promised slots room, whole]
  simp [entryRun, chunk, normalised]

/-! ### The fabric's entry -/

/-- What the fabric keeps of a frame after the pieces before `offset`. -/
def wqeAt (ring : Ring) (frame : Frame) (offset : Nat) : PartialWqe where
  frame := wireMessage frame []
  wire := frame.header ring 0
  payload := frame.payload.take offset
  nextOffset := offset

theorem acceptWqeChunk_piece (weak : frame.orderType.toNat ≤ 2) {offset : Nat}
    (inside : offset < frame.payload.length ∨ offset = 0) :
    acceptWqeChunk (if offset = 0 then none else some (frame.wqeAt ring offset))
        (wireMessage frame (frame.fragment ring offset)) (frame.header ring offset)
        ((frame.payload.drop offset).take (frame.chunk ring offset)) =
      if offset + frame.chunk ring offset < frame.payload.length then
        some (some (frame.wqeAt ring (offset + frame.chunk ring offset)), [])
      else some (none, [frame.wqeAt ring frame.payload.length]) := by
  have chunk : frame.chunk ring offset =
      min ring.payloadCapacity (frame.payload.length - offset) := chunk_of_request request offset
  have size : (frame.header ring offset).payloadLength.toNat = frame.chunk ring offset :=
    header_payloadLength request promised offset
  have place : (frame.header ring offset).payloadOffset.toNat = offset :=
    header_payloadOffset request promised (by omega)
  have final : (frame.header ring offset).last =
      decide (offset + frame.chunk ring offset = frame.payload.length) := by
    rw [header_last request promised]
    simp [isLast, request_not_completion request]
  have operation : Operation.ofCode (frame.header ring offset).operation = frame.operation :=
    Operation.ofCode_code request
  have strong : ¬ orderStrong < orderOf (frame.header ring offset).flags := by
    rw [header_orderOf request promised, UInt8.lt_iff_toNat_lt]
    show ¬ 2 < frame.orderType.toNat
    omega
  have extent : ¬ (frame.header ring offset).transferLength <
      (frame.header ring offset).payloadOffset + (frame.header ring offset).payloadLength := by
    have small := promised.payload_lt
    rw [UInt32.lt_iff_toNat_lt, UInt32.toNat_add, size, place]
    by_cases read : frame.operation = .readRequest
    · have nothing : frame.payload.length = 0 := by simp [payload, read]
      have none : offset + frame.chunk ring offset = 0 := by omega
      rw [none]
      simp
    · rw [header_transferLength request promised read, Nat.mod_eq_of_lt (by omega)]
      omega
  have empty : ¬ (frame.operation == .readRequest &&
      ((frame.header ring offset).payloadLength != 0 ||
        (frame.header ring offset).payloadOffset != 0)) = true := by
    intro flagged
    simp only [Bool.and_eq_true, beq_iff_eq, Bool.or_eq_true, bne_iff_ne, ne_eq,
      ← UInt32.toNat_inj, size, place] at flagged
    obtain ⟨read, carried⟩ := flagged
    have nothing : frame.payload.length = 0 := by simp [payload, read]
    simp only [UInt32.toNat_zero] at carried
    omega
  have begun : (match (if offset = 0 then none else some (frame.wqeAt ring offset)) with
      | none =>
          if (frame.header ring offset).payloadOffset ≠ 0 then none
          else some (⟨{ wireMessage frame (frame.fragment ring offset) with bytes := [] },
            frame.header ring offset, [], 0⟩ : PartialWqe)
      | some current =>
          if (frame.header ring offset).payloadOffset.toNat ≠ current.nextOffset ∨
              (frame.header ring offset).operation ≠ current.wire.operation ∨
              (frame.header ring offset).requestId ≠ current.wire.requestId ∨
              (frame.header ring offset).transferLength ≠ current.wire.transferLength then none
          else some current) = some (frame.wqeAt ring offset) := by
    by_cases start : offset = 0
    · subst start
      have zero : (frame.header ring 0).payloadOffset = 0 := UInt32.toNat_inj.mp place
      simp [zero, wqeAt, wireMessage]
    · rw [if_neg start]
      dsimp only
      rw [if_neg]
      rintro (moved | moved | moved | moved)
      · exact moved place
      · exact moved rfl
      · exact moved rfl
      · exact moved (by simp [wqeAt, header])
  have joined : frame.payload.take offset ++
      (frame.payload.drop offset).take (frame.chunk ring offset) =
        frame.payload.take (offset + frame.chunk ring offset) := (List.take_add ..).symm
  have refused : ¬ (!frame.operation.request || frame.operation.targetCompletion ||
      decide ((frame.header ring offset).transferLength <
        (frame.header ring offset).payloadOffset + (frame.header ring offset).payloadLength) ||
      decide (orderStrong < orderOf (frame.header ring offset).flags)) = true := by
    simp [request, request_not_completion request, extent, strong]
  simp only [acceptWqeChunk, operation, refused, empty, begun]
  have moved : (frame.wqeAt ring offset).payload ++
      (frame.payload.drop offset).take (frame.chunk ring offset) =
        frame.payload.take (offset + frame.chunk ring offset) := joined
  have next : (frame.wqeAt ring offset).nextOffset +
      (frame.header ring offset).payloadLength.toNat = offset + frame.chunk ring offset := by
    rw [size]
    rfl
  simp only [moved, next, final]
  by_cases last : offset + frame.chunk ring offset = frame.payload.length
  · have counted : frame.payload.length = if frame.operation = .readRequest then 0 else
        (frame.header ring offset).transferLength.toNat := by
      by_cases read : frame.operation = .readRequest
      · simp [payload, read]
      · rw [if_neg read, header_transferLength request promised read]
    simp only [last, decide_true, Bool.not_true, Bool.false_eq_true, if_false, Nat.lt_irrefl]
    simp only [beq_iff_eq, List.take_length, wqeAt, ← counted, ne_eq, not_true_eq_false, if_false]
  · have more : offset + frame.chunk ring offset < frame.payload.length := by omega
    have unfinished : decide (offset + frame.chunk ring offset = frame.payload.length) = false := by
      simpa using last
    simp only [unfinished, Bool.not_false, if_true, more]
    simp [wqeAt]

theorem acceptMessage_piece (weak : frame.orderType.toNat ≤ 2) (endpoint : Nat) {offset : Nat}
    (inside : offset < frame.payload.length ∨ offset = 0) :
    acceptMessage (if offset = 0 then none else some (frame.wqeAt ring offset))
        (endpoint, wireMessage frame (frame.fragment ring offset)) =
      if offset + frame.chunk ring offset < frame.payload.length then
        some (some (frame.wqeAt ring (offset + frame.chunk ring offset)), [])
      else some (none, [frame.wqeAt ring frame.payload.length]) := by
  have decoded : Header.decode (frame.fragment ring offset) = some (frame.header ring offset) :=
    Header.decode_encode _ _
  have behind : (frame.fragment ring offset).drop headerBytes =
      (frame.payload.drop offset).take (frame.chunk ring offset) :=
    List.drop_left' (Header.encode_length _)
  have bytes : (wireMessage frame (frame.fragment ring offset)).bytes =
      frame.fragment ring offset := rfl
  simp only [acceptMessage, bytes, decoded, behind]
  exact acceptWqeChunk_piece request promised weak inside

/-- Every piece of a frame is accepted, and the last one submits it. -/
theorem accept_pieces (weak : frame.orderType.toNat ≤ 2)
    (room : messageBytes + headerBytes < ring.entryBytes) (endpoint : Nat)
    {iterations offset : Nat} (inside : offset < frame.payload.length ∨ offset = 0)
    (enough : frame.payload.length - offset ≤ iterations) :
    entryRun acceptMessage
      ((frame.fragments ring iterations offset).map fun wire => (endpoint, wireMessage frame wire))
      (if offset = 0 then none else some (frame.wqeAt ring offset)) =
        some (none, [frame.wqeAt ring frame.payload.length]) := by
  induction iterations generalizing offset with
  | zero =>
      have chunk : frame.chunk ring offset =
          min ring.payloadCapacity (frame.payload.length - offset) :=
        chunk_of_request request offset
      have done : ¬ offset + frame.chunk ring offset < frame.payload.length := by omega
      rw [fragments, List.map_singleton, entryRun, acceptMessage_piece request promised weak
        endpoint inside, if_neg done]
      rfl
  | succ iterations inductionHypothesis =>
      have chunk : frame.chunk ring offset =
          min ring.payloadCapacity (frame.payload.length - offset) :=
        chunk_of_request request offset
      unfold fragments
      by_cases more : offset + frame.chunk ring offset < frame.payload.length
      · have positive : offset + frame.chunk ring offset ≠ 0 := by
          unfold Ring.payloadCapacity at chunk
          omega
        have later := inductionHypothesis (.inl more) (by
          unfold Ring.payloadCapacity at chunk
          omega)
        rw [if_neg positive] at later
        rw [if_pos more, List.map_cons, entryRun, acceptMessage_piece request promised weak
          endpoint inside, if_pos more]
        dsimp only
        rw [later]
        rfl
      · rw [if_neg more, List.map_singleton, entryRun, acceptMessage_piece request promised weak
          endpoint inside, if_neg more]
        rfl

end Encoded

end Frame

/-! ## Interleavings -/

namespace Frame

def key (frame : Frame) : UInt32 × UInt64 := (frame.sourceEid, frame.sequence)

/-- The ring entries of a frame. -/
def messages (ring : Ring) (frame : Frame) : List Message :=
  ((networkSend ring frame).getD []).map (wireMessage frame)

/-- The ring entries of a frame, as the fabric takes them from the ring of an endpoint. -/
def chunks (ring : Ring) (endpoint : Nat) (frame : Frame) : List (Nat × Message) :=
  (frame.messages ring).map fun message => (endpoint, message)

/-- A frame that `Send` accepts, that is not raw and whose pieces fit the ring. -/
structure Delivered (ring : Ring) (frame : Frame) : Prop where
  accepted : (networkSend ring frame).isSome = true
  promised : frame.Promised
  typed : frame.operation ≠ .raw
  fits : frame.fits ring = true

variable {ring : Ring} {frame : Frame}

theorem networkSend_eq (accepted : (networkSend ring frame).isSome = true)
    (typed : frame.operation ≠ .raw) :
    messageBytes + headerBytes < ring.entryBytes ∧
      networkSend ring frame = some (frame.fragments ring frame.payload.length 0) ∧
      (frame.operation.request = true ∨ frame.operation.targetCompletion = true) := by
  unfold networkSend at accepted ⊢
  rw [if_neg typed] at accepted ⊢
  split at accepted
  next => simp at accepted
  next room =>
    split at accepted
    next => simp at accepted
    next short =>
      split at accepted
      next => simp at accepted
      next known =>
        refine ⟨by omega, ?_, ?_⟩
        · rw [if_neg room, if_neg short, if_neg known]
        · simpa [Bool.and_eq_true, ← Bool.not_eq_true, Classical.or_iff_not_imp_left] using known

/-- A request is reassembled by `Poll`. -/
theorem poll_request (request : frame.operation.request = true)
    (accepted : (networkSend ring frame).isSome = true) (promised : frame.Promised)
    {inElen : Nat} (slots : ring.entryBytes ≤ inElen) :
    entryRun (pollFrame inElen) (frame.messages ring) none = some (none, [frame.normalised]) := by
  have typed : frame.operation ≠ .raw := by
    intro raw
    simp [raw, Operation.request] at request
  obtain ⟨room, sent, -⟩ := networkSend_eq accepted typed
  unfold messages
  rw [sent, Option.getD_some]
  cases cut : frame.fragmented ring with
  | false => exact poll_whole request promised slots room cut _
  | true =>
      have inside : 0 < frame.payload.length := by
        simp only [fragmented, Bool.and_eq_true, decide_eq_true_eq] at cut
        omega
      exact poll_cut request promised slots room cut inside (by omega)

/-- A target completion passes `Poll` in one piece. -/
theorem poll_completion (completion : frame.operation.targetCompletion = true)
    (delivered : frame.Delivered ring) {inElen : Nat} (slots : ring.entryBytes ≤ inElen) :
    ∃ frames, entryRun (pollFrame inElen) (frame.messages ring) none = some (none, frames) := by
  obtain ⟨room, sent, -⟩ := networkSend_eq delivered.accepted delivered.typed
  obtain ⟨single, length⟩ : frame.fragments ring frame.payload.length 0 = [frame.fragment ring 0] ∧
      (frame.fragment ring 0).length = headerBytes + frame.bytes.length :=
    fragments_of_completion completion frame.payload.length
  have carried : frame.payload = frame.bytes := by
    unfold payload
    rw [if_neg]
    intro read
    simp [read, Operation.targetCompletion] at completion
  have decoded : Header.decode (frame.fragment ring 0) = some (frame.header ring 0) :=
    Header.decode_encode _ _
  have size : (frame.header ring 0).payloadLength.toNat = frame.bytes.length := by
    have chunk : frame.chunk ring 0 = frame.bytes.length := by simp [chunk, completion, carried]
    show (UInt32.ofNat (frame.chunk ring 0)).toNat = _
    rw [chunk]
    exact toNat_ofNat_of_small delivered.promised.small
  have whole : (frame.header ring 0).payloadLength.toNat =
      (frame.fragment ring 0).length - headerBytes := by omega
  have small : headerBytes + frame.bytes.length ≤ ring.capacity := by
    have fits := delivered.fits
    unfold Frame.fits at fits
    cases operation : frame.operation <;> simp_all [Operation.targetCompletion]
  have fits : ¬ (inElen < messageBytes ∨
      inElen - messageBytes < (frame.fragment ring 0).length) := by
    unfold Ring.capacity at small
    omega
  have long : ¬ (frame.fragment ring 0).length < headerBytes := by omega
  have magic : (frame.header ring 0).magic = wireMagic := rfl
  have version : (frame.header ring 0).version = wireVersion := rfl
  have segment : (frame.header ring 0).ctpSegment = true := by
    show (frame.flags ring 0 &&& ctpSegmentFlag != 0) = true
    simp only [flags, completion, if_true, fragmented, isLast, Bool.not_true, Bool.false_and,
      Bool.true_or, Bool.false_eq_true, if_false]
    exact completion_flag _ delivered.promised.order
  have bytes : (wireMessage frame (frame.fragment ring 0)).bytes = frame.fragment ring 0 := rfl
  have passed : pollFrame inElen none (wireMessage frame (frame.fragment ring 0)) =
      some (none, [(wireMessage frame (frame.fragment ring 0)).frame (frame.header ring 0)]) := by
    simp only [pollFrame, bytes, fits, long, if_false, decoded, magic, version, whole, segment,
      ne_eq, not_true_eq_false, or_self, Bool.not_true, Bool.and_false, Bool.false_eq_true]
  refine ⟨[(wireMessage frame (frame.fragment ring 0)).frame (frame.header ring 0)], ?_⟩
  unfold messages
  rw [sent, Option.getD_some, single, List.map_singleton, entryRun, passed]
  rfl

theorem Delivered.poll (delivered : frame.Delivered ring) {inElen : Nat}
    (slots : ring.entryBytes ≤ inElen) :
    ∃ frames, entryRun (pollFrame inElen) (frame.messages ring) none = some (none, frames) := by
  obtain ⟨_, _, request | completion⟩ := networkSend_eq delivered.accepted delivered.typed
  · exact ⟨_, poll_request request delivered.accepted delivered.promised slots⟩
  · exact poll_completion completion delivered slots

/-- A request is reassembled by the fabric. -/
theorem accept_request (request : frame.operation.request = true)
    (accepted : (networkSend ring frame).isSome = true) (promised : frame.Promised)
    (weak : frame.orderType.toNat ≤ 2) (endpoint : Nat) :
    entryRun acceptMessage (frame.chunks ring endpoint) none =
      some (none, [frame.wqeAt ring frame.payload.length]) := by
  have typed : frame.operation ≠ .raw := by
    intro raw
    simp [raw, Operation.request] at request
  obtain ⟨room, sent, -⟩ := networkSend_eq accepted typed
  have pieces := accept_pieces request promised weak room endpoint (.inr rfl) (Nat.le_refl _)
  unfold chunks messages
  rw [sent, Option.getD_some, List.map_map]
  exact pieces

end Frame

/-- The items of a key are the beginning of the pieces of frames, each in its order. -/
def Orderly {Key Item : Type} [DecidableEq Key] (key : Item → Key) (pieces : Frame → List Item)
    (allowed : Frame → Prop) (items : List Item) (which : Key) : Prop :=
  ∃ frames : List Frame, (∀ frame ∈ frames, allowed frame) ∧
    itemsOf key which items <+: (frames.map pieces).flatten

theorem Orderly.absent {Key Item : Type} [DecidableEq Key] {key : Item → Key}
    {pieces : Frame → List Item} {allowed : Frame → Prop} {items : List Item} {which : Key}
    (unused : ∀ item ∈ items, key item ≠ which) : Orderly key pieces allowed items which := by
  have none : itemsOf key which items = [] := by
    refine List.filter_eq_nil_iff.mpr ?_
    intro item membership
    simpa using unused item membership
  refine ⟨[], by simp, ?_⟩
  rw [none]
  exact List.nil_prefix

/-- A request that the fabric is to rebuild. -/
structure Frame.Submitted (ring : Ring) (frame : Frame) : Prop where
  accepted : (networkSend ring frame).isSome = true
  promised : frame.Promised
  request : frame.operation.request = true
  weak : frame.orderType.toNat ≤ 2

theorem fragments_round_trip {ring : Ring} {frame : Frame}
    (accepted : (networkSend ring frame).isSome = true)
    (request : frame.operation.request = true) (promised : frame.Promised) :
    (∀ (inElen : Nat) (arrived : List Message), ring.entryBytes ≤ inElen →
      itemsOf Message.key frame.key arrived = frame.messages ring →
      (∀ which, which ≠ frame.key →
        Orderly Message.key (Frame.messages ring) (Frame.Delivered ring) arrived which) →
      ∃ final frames,
        keyedRun Message.key (pollFrame inElen) arrived (fun _ => none) = some (final, frames) ∧
        final frame.key = none ∧
        outputsOf frame.key frames = [{ frame with
          taSsn := 0
          transactionOffset := 0
          transferLength := .ofNat frame.logicalTotal }]) ∧
    (frame.orderType.toNat ≤ 2 → ∀ (endpoint : Nat) (arrived : List (Nat × Message)),
      itemsOf chunkKey (endpoint, frame.sequence) arrived = frame.chunks ring endpoint →
      (∀ which, which ≠ (endpoint, frame.sequence) →
        Orderly chunkKey (Frame.chunks ring which.1) (Frame.Submitted ring) arrived which) →
      ∃ final submitted,
        keyedRun chunkKey acceptMessage arrived (fun _ => none) = some (final, submitted) ∧
        final (endpoint, frame.sequence) = none ∧
        outputsOf (endpoint, frame.sequence) submitted =
          [{ frame := wireMessage frame []
             wire := frame.header ring 0
             payload := frame.bytes
             nextOffset := frame.bytes.length }]) := by
  have bytes : frame.payload = frame.bytes := by
    unfold Frame.payload
    split
    next read => exact (promised.empty read).symm
    next => rfl
  constructor
  · intro inElen arrived slots own others
    have alone := Frame.poll_request request accepted promised slots
    obtain ⟨final, frames, ran, each⟩ :=
        @keyedRun_of_entries _ _ _ _ _ Message.key (pollFrame inElen) arrived (fun _ => none) (by
      intro which
      by_cases same : which = frame.key
      · subst same
        exact ⟨_, by rw [own]; exact alone⟩
      · obtain ⟨sources, delivered, beginning⟩ := others which same
        refine entryRun_of_blocks ?_ beginning
        intro block membership
        obtain ⟨source, known, rfl⟩ := List.mem_map.mp membership
        exact (delivered source known).poll slots)
    have ended := each frame.key
    rw [own, alone] at ended
    obtain ⟨empty, output⟩ := Prod.mk.injEq .. |>.mp (Option.some.inj ended)
    refine ⟨final, frames, ran, empty.symm, ?_⟩
    rw [← output]
    simp [Frame.normalised, bytes]
  · intro weak endpoint arrived own others
    have alone := Frame.accept_request request accepted promised weak endpoint
    obtain ⟨final, submitted, ran, each⟩ :=
        @keyedRun_of_entries _ _ _ _ _ chunkKey acceptMessage arrived (fun _ => none) (by
      intro which
      by_cases same : which = (endpoint, frame.sequence)
      · subst same
        exact ⟨_, by rw [own]; exact alone⟩
      · obtain ⟨sources, delivered, beginning⟩ := others which same
        refine entryRun_of_blocks ?_ beginning
        intro block membership
        obtain ⟨source, known, rfl⟩ := List.mem_map.mp membership
        have submitted := delivered source known
        exact ⟨_, Frame.accept_request submitted.request submitted.accepted submitted.promised
          submitted.weak which.1⟩)
    have ended := each (endpoint, frame.sequence)
    rw [own, alone] at ended
    obtain ⟨empty, output⟩ := Prod.mk.injEq .. |>.mp (Option.some.inj ended)
    refine ⟨final, submitted, ran, empty.symm, ?_⟩
    rw [← output]
    simp [Frame.wqeAt, bytes]

/-- A WRITE of 200 bytes, which takes two entries of the small ring. -/
def Frame.twoPieces : Frame := .plain .write (List.replicate 200 7)

/-- A later WRITE of 300 bytes, which takes three. -/
def Frame.threePieces : Frame := { Frame.plain .write (List.replicate 300 9) with sequence := 2 }

/-- The two WRITEs in turn; the last piece of the later one is still in the ring. -/
def interleaved : List Message :=
  (Frame.threePieces.messages .small).take 1 ++ (Frame.twoPieces.messages .small).take 1 ++
    ((Frame.threePieces.messages .small).drop 1).take 1 ++
    (Frame.twoPieces.messages .small).drop 1

theorem interleaved_writes_arrive :
    (∃ final frames,
      keyedRun Message.key (pollFrame 256) interleaved (fun _ => none) = some (final, frames) ∧
      final Frame.twoPieces.key = none ∧
      outputsOf Frame.twoPieces.key frames = [Frame.twoPieces]) ∧
    ∃ final submitted,
      keyedRun chunkKey acceptMessage (interleaved.map fun message => (0, message))
        (fun _ => none) = some (final, submitted) ∧
      final (0, 1) = none ∧
      outputsOf (0, 1) submitted =
        [{ frame := wireMessage Frame.twoPieces []
           wire := Frame.twoPieces.header .small 0
           payload := List.replicate 200 7
           nextOffset := 200 }] := by
  have earlier : Frame.twoPieces.Promised := ⟨by decide +kernel, by decide, by decide⟩
  have later : Frame.threePieces.Promised := ⟨by decide +kernel, by decide, by decide⟩
  obtain ⟨device, fabric⟩ := @fragments_round_trip .small Frame.twoPieces (by decide +kernel)
    (by decide) earlier
  constructor
  · refine device 256 interleaved (by decide) (by decide +kernel) ?_
    intro which different
    by_cases other : which = Frame.threePieces.key
    · subst other
      refine ⟨[Frame.threePieces], ?_, by decide +kernel⟩
      intro frame membership
      obtain rfl := List.mem_singleton.mp membership
      exact ⟨by decide +kernel, later, by decide, by decide +kernel⟩
    · have known : ∀ message ∈ interleaved,
          message.key = Frame.twoPieces.key ∨ message.key = Frame.threePieces.key := by
        decide +kernel
      refine .absent fun message membership same => ?_
      rcases known message membership with key | key
      · exact different (same ▸ key)
      · exact other (same ▸ key)
  · refine fabric (by decide) 0 _ (by decide +kernel) ?_
    intro which different
    by_cases other : which = (0, 2)
    · subst other
      refine ⟨[Frame.threePieces], ?_, by decide +kernel⟩
      intro frame membership
      obtain rfl := List.mem_singleton.mp membership
      exact ⟨by decide +kernel, later, by decide, by decide⟩
    · have known : ∀ item ∈ interleaved.map fun message => (0, message),
          chunkKey item = (0, 1) ∨ chunkKey item = (0, 2) := by
        decide +kernel
      refine .absent fun item membership same => ?_
      rcases known item membership with key | key
      · exact different (same ▸ key)
      · exact other (same ▸ key)

end Udma.Wire
