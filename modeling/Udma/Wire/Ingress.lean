import Udma.Sq.Routes
import Udma.Wire.Reassembly

/-!
# Requests at the fabric

A device builds its request frames from what the guest wrote: the EID index of the
Jetty, the port of the TP route and the order bits of the descriptor.
`UbNetFabric::PollOne` and `AcceptWqeChunk` compare these with the options of the
fabric, and throw.
-/

namespace Udma.Wire

open Udma.Abi Udma.Collections Udma.Transition

/-! ## The checks of the fabric -/

structure Fabric where
  /-- The EIDs of the endpoints. -/
  endpoints : List UInt32
  ports : Nat

/-- `max_frame_bytes` of the introduction every device sends. -/
def maxFrameBytes : Nat := 16384

/-- Entries as `DefaultParams` asks for them. -/
def Ring.network : Ring := ⟨16384 + 64, by decide⟩

namespace Fabric

/-- `route_`: the first endpoint with this EID. -/
def route (fabric : Fabric) (eid : UInt32) : Option Nat :=
  fabric.endpoints.findIdx? (· == eid)

/-- The checks of `PollOne` on a frame of the endpoint `source`, with the header it finds. -/
def envelope (fabric : Fabric) (source : Nat) (ingress : Message) : Option Header :=
  if maxFrameBytes < ingress.bytes.length ∨ fabric.ports ≤ ingress.sourcePort.toNat ∨
      fabric.endpoints[source]? ≠ some ingress.sourceEid then none
  else if fabric.route ingress.destinationEid = none ∨
      fabric.route ingress.destinationEid = some source then none
  else if ingress.bytes.length < headerBytes then none
  else
    match Header.decode ingress.bytes with
    | none => none
    | some wire =>
        if wire.magic ≠ wireMagic ∨ wire.version ≠ wireVersion ∨
            ingress.bytes.length ≠ headerBytes + wire.payloadLength.toNat then none
        else some wire

/-- `PollOne` on a frame, as far as it concerns the partial WQE of its sequence number: a
target completion leaves it alone. -/
def pollOne (fabric : Fabric) : EntryStep PartialWqe (Nat × Message) PartialWqe
  | entry, (source, ingress) =>
      match fabric.envelope source ingress with
      | none => none
      | some wire =>
          if wire.ctpSegment then some (entry, [])
          else acceptWqeChunk entry ingress wire (ingress.bytes.drop headerBytes)

/-- The fabric takes all entries of a frame. -/
def takes (fabric : Fabric) (source : Nat) (frame : Frame) : Bool :=
  (entryRun fabric.pollOne (frame.chunks .network source) none).isSome

end Fabric

/-! ## Pieces of a request -/

theorem Frame.mem_fragments {ring : Ring} {frame : Frame} {iterations offset : Nat} {wire : Bytes}
    (membership : wire ∈ frame.fragments ring iterations offset) :
    ∃ place, wire = frame.fragment ring place := by
  induction iterations generalizing offset with
  | zero => exact ⟨offset, List.mem_singleton.mp membership⟩
  | succ iterations inductionHypothesis =>
      unfold fragments at membership
      split at membership
      next more =>
        rcases List.mem_cons.mp membership with rfl | later
        · exact ⟨offset, rfl⟩
        · exact inductionHypothesis later
      next done => exact ⟨offset, List.mem_singleton.mp membership⟩

namespace Fabric

variable {fabric : Fabric} {source : Nat} {frame : Frame} {eid : UInt32}

/-- What the fabric demands of a request beyond what `Send` writes. -/
structure Admits (fabric : Fabric) (source : Nat) (frame : Frame) : Prop where
  sourceEid : fabric.endpoints[source]? = some frame.sourceEid
  sourcePort : frame.sourcePort.toNat < fabric.ports
  routed : ∃ destination, fabric.route frame.destinationEid = some destination ∧
    destination ≠ source

/-- The envelope of a piece passes exactly when the endpoint fields do. -/
theorem envelope_fragment (request : frame.operation.request = true) (promised : frame.Promised)
    (offset : Nat) :
    fabric.envelope source (wireMessage frame (frame.fragment .network offset)) =
      if fabric.ports ≤ frame.sourcePort.toNat ∨
          fabric.endpoints[source]? ≠ some frame.sourceEid then none
      else if fabric.route frame.destinationEid = none ∨
          fabric.route frame.destinationEid = some source then none
      else some (frame.header .network offset) := by
  have chunk : frame.chunk .network offset =
      min Ring.network.payloadCapacity (frame.payload.length - offset) :=
    Frame.chunk_of_request request offset
  have length : (frame.fragment .network offset).length =
      headerBytes + frame.chunk .network offset := by
    rw [Frame.fragment_length]
    omega
  have size : (frame.header .network offset).payloadLength.toNat = frame.chunk .network offset :=
    Frame.header_payloadLength request promised offset
  have capacity : Ring.network.payloadCapacity = 16320 := rfl
  have decoded : Header.decode (frame.fragment .network offset) =
      some (frame.header .network offset) := Header.decode_encode _ _
  have small : ¬ maxFrameBytes < (frame.fragment .network offset).length := by
    unfold maxFrameBytes
    rw [length]
    show ¬ 16384 < 64 + _
    omega
  have long : ¬ (frame.fragment .network offset).length < headerBytes := by omega
  have magic : (frame.header .network offset).magic = wireMagic := rfl
  have version : (frame.header .network offset).version = wireVersion := rfl
  have whole : (frame.fragment .network offset).length =
      headerBytes + (frame.header .network offset).payloadLength.toNat := by omega
  simp only [envelope, wireMessage, small, false_or, long, if_false, decoded, magic, version,
    ne_eq, not_true_eq_false, eq_true whole, or_self]

theorem pollOne_fragment (request : frame.operation.request = true) (promised : frame.Promised)
    (admits : fabric.Admits source frame) (entry : Option PartialWqe) (offset : Nat) :
    fabric.pollOne entry (source, wireMessage frame (frame.fragment .network offset)) =
      acceptMessage entry (source, wireMessage frame (frame.fragment .network offset)) := by
  obtain ⟨destination, routed, other⟩ := admits.routed
  have ports := admits.sourcePort
  have passed : fabric.envelope source (wireMessage frame (frame.fragment .network offset)) =
      some (frame.header .network offset) := by
    rw [envelope_fragment request promised, if_neg, if_neg]
    · simp [routed, other]
    · simp [admits.sourceEid, ports]
  have decoded : Header.decode (frame.fragment .network offset) =
      some (frame.header .network offset) := Header.decode_encode _ _
  have bytes : (wireMessage frame (frame.fragment .network offset)).bytes =
      frame.fragment .network offset := rfl
  simp [pollOne, passed, Frame.header_ctpSegment request promised, acceptMessage, bytes, decoded]

/-- The fabric takes a request exactly when its endpoint fields and its order pass. -/
theorem takes_iff (request : frame.operation.request = true) (promised : frame.Promised)
    (accepted : (networkSend .network frame).isSome = true) :
    fabric.takes source frame = true ↔
      fabric.Admits source frame ∧ frame.orderType.toNat ≤ 2 := by
  have typed : frame.operation ≠ .raw := by
    intro raw
    simp [raw, Operation.request] at request
  obtain ⟨room, sent, -⟩ := Frame.networkSend_eq accepted typed
  have pieces : frame.chunks .network source =
      (frame.fragments .network frame.payload.length 0).map
        fun wire => (source, wireMessage frame wire) := by
    unfold Frame.chunks Frame.messages
    rw [sent, Option.getD_some, List.map_map]
    rfl
  unfold takes
  constructor
  · intro taken
    -- the first piece alone decides
    obtain ⟨rest, first⟩ : ∃ rest, frame.chunks .network source =
        (source, wireMessage frame (frame.fragment .network 0)) :: rest := by
      rw [pieces]
      cases frame.payload.length with
      | zero => exact ⟨[], rfl⟩
      | succ iterations =>
          unfold Frame.fragments
          split
          · exact ⟨_, rfl⟩
          · exact ⟨[], rfl⟩
    rw [first, entryRun] at taken
    have polled : fabric.pollOne none
        (source, wireMessage frame (frame.fragment .network 0)) ≠ none := by
      intro none
      simp [none] at taken
    unfold pollOne at polled
    simp only [envelope_fragment request promised] at polled
    by_cases ports : fabric.ports ≤ frame.sourcePort.toNat ∨
        fabric.endpoints[source]? ≠ some frame.sourceEid
    · simp [ports] at polled
    · rw [if_neg ports] at polled
      by_cases routed : fabric.route frame.destinationEid = none ∨
          fabric.route frame.destinationEid = some source
      · simp [routed] at polled
      · rw [if_neg routed] at polled
        simp only [not_or, ne_eq, not_not, Nat.not_le] at ports routed
        obtain ⟨destination, found⟩ := Option.ne_none_iff_exists'.mp routed.1
        refine ⟨⟨ports.2, ports.1, destination, found, ?_⟩, ?_⟩
        · intro same
          exact routed.2 (same ▸ found)
        · by_contra strong
          have order : orderStrong < orderOf (frame.header .network 0).flags := by
            rw [Frame.header_orderOf request promised, UInt8.lt_iff_toNat_lt]
            show 2 < frame.orderType.toNat
            omega
          simp [Frame.header_ctpSegment request promised, acceptWqeChunk, order] at polled
  · rintro ⟨admits, weak⟩
    have same : ∀ item ∈ frame.chunks .network source, ∀ entry,
        fabric.pollOne entry item = acceptMessage entry item := by
      rw [pieces]
      intro item membership entry
      obtain ⟨wire, known, rfl⟩ := List.mem_map.mp membership
      obtain ⟨offset, rfl⟩ := Frame.mem_fragments known
      exact pollOne_fragment request promised admits entry offset
    rw [entryRun_congr same, Frame.accept_request request accepted promised weak]
    rfl

end Fabric

/-! ## What a request frame is built from -/

/-- The Jetty and the descriptor that a piece of code is about when it may send. -/
def descriptorOf : Sq.Task → Option (Nat × Bytes)
  | .handleSqWqe id raw => some (id, raw)
  | .submitSqPayload id raw _ _ => some (id, raw)
  | _ => none

/-- The fields that come from the guest. -/
structure BuiltFrom (config : Sq.Config) (context : Sq.QueueContext) (route : Sq.TpRoute)
    (raw : Bytes) (frame : Sq.Frame) : Prop where
  sourceEid : frame.sourceEid = config.endpointEid + context.eidIndex * 0x10000
  destinationEid : frame.destinationEid = route.remoteEid
  sourcePort : frame.sourcePort = route.port % 2 ^ 16
  orderType : frame.orderType = SqWqe.placeOrder raw
  empty : frame.operation = .readRequest → frame.bytes = []

/-- Code sends nothing or one frame of its Jetty and descriptor, by the route of its TP. -/
def Sends (config : Sq.Config) (before : Sq.State) (id : Nat) (raw : Bytes)
    (after : Sq.State) : Prop :=
  after.frames = before.frames ∨
    ∃ jetty route frame, before.jetty id = some jetty ∧
      Sq.findRoute before.tpRoutes (SqWqe.tpn raw) = some route ∧
      after.frames = before.frames ++ [frame] ∧
      BuiltFrom config jetty.context route raw frame

/-- The frame of a READ. -/
def readFrame (config : Sq.Config) (state : Sq.State) (context : Sq.QueueContext) (id : Nat)
    (route : Sq.TpRoute) (raw : Bytes) : Sq.Frame :=
  { Sq.requestFrame config state context id route raw .readRequest with
    requestId := state.nextRmaRequest
    transferLength := (SqWqe.firstSge raw).length }

/-- The frame of a SEND or WRITE. -/
def payloadFrame (config : Sq.Config) (state : Sq.State) (context : Sq.QueueContext) (id : Nat)
    (route : Sq.TpRoute) (raw payload : Bytes) : Sq.Frame :=
  let isWrite := decide (SqWqe.opcode raw = 3)
  { Sq.requestFrame config state context id route raw (Sq.payloadOperation raw) with
    immediate := SqWqe.immediate raw
    requestId := if isWrite then state.nextRmaRequest else 0
    transferLength := if isWrite then payload.length else 0
    bytes := payload }

/-- Behind its checks a descriptor only sends as a READ request. -/
theorem issueWqe_sends (config : Sq.Config) {state : Sq.State} {id : Nat} {jetty : Sq.Jetty}
    (existing : state.jetty id = some jetty) {route : Sq.TpRoute} {raw : Bytes}
    (found : Sq.findRoute state.tpRoutes (SqWqe.tpn raw) = some route) :
    Sends config state id raw (Sq.issueWqe config state id jetty route raw) := by
  unfold Sq.issueWqe
  dsimp only
  split
  next read =>
    unfold Sq.issueRead
    dsimp only
    split
    next => exact .inl (by simp [Sq.State.frames])
    next =>
      split
      next => exact .inl (by simp [Sq.State.frames])
      next =>
        refine .inr ⟨jetty, route, readFrame config state jetty.context id route raw, existing,
          found, ?_, ⟨rfl, rfl, rfl, rfl, fun _ => rfl⟩⟩
        simp [Sq.State.frames, Sq.reserveSq, readFrame]
  next other =>
    left
    unfold Sq.State.frames Sq.rejectSend Sq.prepareWrite Sq.reserveSq
    split <;> [simp; split] <;> [split; split] <;> [simp; simp; simp; split] <;>
      [simp; split] <;> simp

theorem handleSqWqe_sends (config : Sq.Config) (state : Sq.State) (id : Nat) (raw : Bytes) :
    Sends config state id raw (Sq.handleSqWqe config state id raw) := by
  unfold Sq.handleSqWqe
  split
  next => exact .inl rfl
  next jetty existing =>
    dsimp only
    split
    · exact .inl (by simp [Sq.State.frames])
    split
    · exact .inl (by simp [Sq.State.frames])
    split
    · exact .inl (by simp [Sq.State.frames])
    split
    · exact .inl (by simp [Sq.State.frames])
    split
    · exact .inl (by simp [Sq.State.frames])
    split
    · exact .inl (by simp [Sq.State.frames])
    split
    · exact .inl (by simp [Sq.State.frames])
    next route found =>
      split
      next up =>
        let executed := state.emit [.executed id jetty.pipe.issue raw]
        have sends : Sends config executed id raw
            (Sq.issueWqe config executed id jetty route raw) :=
          issueWqe_sends config (by simpa [executed] using existing) found
        have frames : executed.frames = state.frames := by simp [executed, Sq.State.frames]
        unfold Sends at sends ⊢
        rw [frames] at sends
        simpa [executed] using sends
      next => exact .inl (by simp [Sq.State.frames])

theorem submitSqPayload_sends (config : Sq.Config) (state : Sq.State) (id : Nat)
    (raw payload : Bytes) (reserved : Option Sq.SqRequest) :
    Sends config state id raw (Sq.submitSqPayload config state id raw payload reserved) := by
  unfold Sq.submitSqPayload
  split
  next => exact .inl rfl
  next jetty existing =>
    dsimp only
    split
    next => exact .inl (by simp [Sq.State.frames])
    next =>
      split
      next => exact .inl rfl
      next =>
        split
        next => exact .inl rfl
        next route found =>
          refine .inr ⟨jetty, route, payloadFrame config state jetty.context id route raw payload,
            existing, found, ?_, ⟨rfl, rfl, rfl, rfl, ?_⟩⟩
          · unfold Sq.State.frames payloadFrame
            by_cases write : SqWqe.opcode raw = 3 <;> cases reserved <;>
              simp [Sq.reserveSq, write]
          · intro read
            simp only [payloadFrame, Sq.requestFrame, Sq.payloadOperation] at read
            split at read
            · cases read
            · split at read <;> cases read

/-- A step that hands a frame to the network runs the code of a descriptor. -/
theorem step_sends {config : Sq.Config} {state next : Sq.State} {event : Sq.Event}
    (taken : Sq.step config state event = some next) :
    next.frames = state.frames ∨
      ∃ task rest id raw, state.stack = task :: rest ∧ descriptorOf task = some (id, raw) ∧
        Sends config { state with stack := rest } id raw next := by
  cases Sq.step_stepped taken with
  | ran task rest who _ top own ran =>
      have ended : Sq.exec config { state with stack := rest } task = next := by
        simpa [Sq.step, top] using taken
      cases sends : task.sends with
      | false => exact .inl (ran.frames_quiet sends)
      | true =>
          right
          rw [← ended]
          cases task with
          | handleSqWqe id raw =>
              exact ⟨_, rest, id, raw, top, rfl, handleSqWqe_sends config _ id raw⟩
          | submitSqPayload id raw payload reserved =>
              exact ⟨_, rest, id, raw, top, rfl,
                submitSqPayload_sends config _ id raw payload reserved⟩
          | _ => simp [Sq.Task.sends] at sends
  | called index ok bytes callback who _ chosen own called => exact .inl called.frames
  | answered index ok bytes callback _ chosen outcome => exact .inl outcome.frames
  | received reply _ outcome => exact .inl outcome.frames
  | direct who offset data jetty _ existing outcome =>
      left
      unfold Sq.State.frames
      cases outcome <;> simp
  | routed event _ outcome => cases outcome <;> exact .inl rfl
  | _ => exact .inl rfl

/-! ## Emitted requests -/

def ofOperation : Sq.Operation → Operation
  | .send => .send
  | .sendImmediate => .sendImmediate
  | .write => .write
  | .readRequest => .readRequest

/-- The frame of the model with the widths of `device::Frame`; a request is for any port. -/
def ofRequest (frame : Sq.Frame) : Frame where
  sequence := .ofNat frame.sequence
  sourceEid := .ofNat frame.sourceEid
  destinationEid := .ofNat frame.destinationEid
  sourcePort := .ofNat frame.sourcePort
  destinationPort := 0xffff
  operation := ofOperation frame.operation
  orderType := .ofNat frame.orderType
  sourceJetty := .ofNat frame.sourceJetty
  destinationJetty := .ofNat frame.destinationJetty
  tpn := .ofNat frame.tpn
  segment := .ofNat frame.segment
  remoteAddress := .ofNat frame.remoteAddress
  immediate := .ofNat frame.immediate
  requestId := .ofNat frame.requestId
  taSsn := 0
  transactionOffset := 0
  transferLength := .ofNat frame.transferLength
  bytes := frame.bytes

theorem ofRequest_request (frame : Sq.Frame) : (ofRequest frame).operation.request = true := by
  simp only [ofRequest]
  cases frame.operation <;> rfl

theorem placeOrder_lt (raw : Bytes) : SqWqe.placeOrder raw < 4 :=
  Nat.lt_of_le_of_lt Nat.and_le_right (by decide)

namespace BuiltFrom

variable {config : Sq.Config} {context : Sq.QueueContext} {route : Sq.TpRoute} {raw : Bytes}
  {frame : Sq.Frame}

theorem order_toNat (built : BuiltFrom config context route raw frame) :
    (ofRequest frame).orderType.toNat = SqWqe.placeOrder raw := by
  have small := placeOrder_lt raw
  simp only [ofRequest, built.orderType, UInt8.toNat_ofNat']
  omega

theorem promised (built : BuiltFrom config context route raw frame)
    (small : frame.bytes.length < 2 ^ 32) : (ofRequest frame).Promised where
  small := small
  order := by
    rw [built.order_toNat]
    exact placeOrder_lt raw
  empty := by
    intro read
    apply built.empty
    simp only [ofRequest] at read
    cases operation : frame.operation <;> simp_all [ofOperation]

/-- The source EID is that of the endpoint for the first index alone. -/
theorem sourceEid_iff (built : BuiltFrom config context route raw frame)
    (index : context.eidIndex < 0x400) :
    (UInt32.ofNat config.endpointEid = (ofRequest frame).sourceEid) ↔ context.eidIndex = 0 := by
  simp only [ofRequest, built.sourceEid, ← UInt32.toNat_inj, UInt32.toNat_ofNat']
  omega

theorem sourcePort_toNat (built : BuiltFrom config context route raw frame) :
    (ofRequest frame).sourcePort.toNat = route.port % 2 ^ 16 := by
  simp only [ofRequest, built.sourcePort, UInt16.toNat_ofNat']
  omega

end BuiltFrom

theorem emitted_requests_taken_iff {config : Sq.Config} {state next : Sq.State}
    {event : Sq.Event} {frame : Sq.Frame} (taken : Sq.step config state event = some next)
    (handed : next.frames = state.frames ++ [frame]) :
    ∃ task rest id raw jetty route, state.stack = task :: rest ∧
      descriptorOf task = some (id, raw) ∧ state.jetty id = some jetty ∧
      Sq.findRoute state.tpRoutes (SqWqe.tpn raw) = some route ∧
      ∀ (fabric : Fabric) (source : Nat),
        fabric.endpoints[source]? = some (.ofNat config.endpointEid) →
        (∃ destination, fabric.route (.ofNat route.remoteEid) = some destination ∧
          destination ≠ source) →
        jetty.context.eidIndex < 0x400 → frame.bytes.length < 2 ^ 32 →
        (networkSend .network (ofRequest frame)).isSome = true →
        (fabric.takes source (ofRequest frame) = true ↔
          jetty.context.eidIndex = 0 ∧ route.port % 2 ^ 16 < fabric.ports ∧
            SqWqe.placeOrder raw ≤ 2) := by
  rcases step_sends taken with none | ⟨task, rest, id, raw, top, about, sends⟩
  · rw [none] at handed
    simp at handed
  · rcases sends with none | ⟨jetty, route, sent, existing, found, one, built⟩
    · have same : next.frames = state.frames := none
      rw [same] at handed
      simp at handed
    · have same : next.frames = state.frames ++ [sent] := one
      obtain rfl : frame = sent := by simpa using handed.symm.trans same
      refine ⟨task, rest, id, raw, jetty, route, top, about, existing, found, ?_⟩
      intro fabric source attached routed index small accepted
      have destination : (ofRequest frame).destinationEid = .ofNat route.remoteEid := by
        simp only [ofRequest, built.destinationEid]
      rw [Fabric.takes_iff (ofRequest_request frame) (built.promised small) accepted]
      constructor
      · rintro ⟨admits, weak⟩
        rw [built.order_toNat] at weak
        have eid := admits.sourceEid
        rw [attached, Option.some.injEq, built.sourceEid_iff index] at eid
        exact ⟨eid, built.sourcePort_toNat ▸ admits.sourcePort, weak⟩
      · rintro ⟨eid, port, weak⟩
        refine ⟨⟨?_, ?_, ?_⟩, ?_⟩
        · rw [attached, (built.sourceEid_iff index).mpr eid]
        · rw [built.sourcePort_toNat]
          exact port
        · rw [destination]
          exact routed
        · rw [built.order_toNat]
          exact weak

/-- Two endpoints with two ports each. -/
def Fabric.pair : Fabric := ⟨[0x100, 0x200], 2⟩

def smallWrite : Bytes := SqWqe.image true 0 0 3 1 0x8000 ⟨4, 0, 0x8000⟩

/-- A WRITE of four bytes whose payload has arrived. -/
def sendingState : Sq.State where
  jetty id := if id = 9 then some { context := .small 3 } else none
  tpRoutes := [⟨1, 0x100, 0x200, 1, true⟩]
  linkUp := [true, true]
  stack := [.submitSqPayload 9 smallWrite [1, 2, 3, 4] none]

theorem small_write_taken :
    ∃ next frame, Sq.step (.small false) sendingState .run = some next ∧
      next.frames = sendingState.frames ++ [frame] ∧
      Fabric.pair.takes 0 (ofRequest frame) = true := by
  let frame := payloadFrame (.small false) sendingState (.small 3) 9 ⟨1, 0x100, 0x200, 1, true⟩
    smallWrite [1, 2, 3, 4]
  refine ⟨_, frame, rfl, by decide +kernel, ?_⟩
  obtain ⟨task, rest, id, raw, jetty, route, top, about, existing, found, taken⟩ :=
    @emitted_requests_taken_iff (.small false) sendingState _ .run frame rfl (by decide +kernel)
  obtain ⟨rfl, rfl⟩ := List.cons.inj top
  obtain ⟨rfl, rfl⟩ := Prod.mk.inj (Option.some.inj about)
  obtain rfl := Option.some.inj (existing.symm.trans rfl)
  obtain rfl : route = ⟨1, 0x100, 0x200, 1, true⟩ :=
    Option.some.inj (found.symm.trans (by decide +kernel))
  exact (taken .pair 0 (by decide) ⟨1, by decide, by decide⟩ (by decide) (by decide)
    (by decide +kernel)).mpr ⟨by decide, by decide, by decide +kernel⟩

/-- Jettys are created with an EID index that the SEID query reports. -/
def Advertised (_before : Sq.State) : Sq.Event → Sq.State → Prop
  | .createJetty _ context, _ => context.eidIndex < 4
  | _, _ => True

instance (before : Sq.State) (event : Sq.Event) (after : Sq.State) :
    Decidable (Advertised before event after) := by
  unfold Advertised
  rcases event with _ | _ <;> infer_instance

/-- A WRITE of four bytes by Jetty 9, up to the step that sends it. -/
def writeEvents (eidIndex : Nat) : List Sq.Event :=
  [.createJetty 9 { Sq.QueueContext.small 3 with eidIndex := eidIndex }, .getTp 0x100 0x200,
    .setTpActive 1 true, .doorbell 9 1] ++ Sq.runs 7 ++
    [.fire 0 true smallWrite] ++ Sq.runs 10 ++
    [.fire 0 true [1, 2, 3, 4]] ++ Sq.runs 1

/-- What the next step sends, whether `Send` accepts it and whether the fabric takes it. -/
def nextTaken (state : Sq.State) : Option (List (Bool × UInt32 × Bool)) :=
  (state.nextFrames (.small false)).map fun frames => frames.map fun frame =>
    ((networkSend .network (ofRequest frame.1)).isSome, (ofRequest frame.1).destinationEid,
      Fabric.pair.takes 0 (ofRequest frame.1))

theorem nextTaken_spec {state : Sq.State} {seen : Bool × UInt32 × Bool}
    (known : nextTaken state = some [seen]) :
    ∃ next frame, Sq.step (.small false) state .run = some next ∧
      next.frames = state.frames ++ [frame] ∧
      (networkSend .network (ofRequest frame)).isSome = seen.1 ∧
      (ofRequest frame).destinationEid = seen.2.1 ∧
      Fabric.pair.takes 0 (ofRequest frame) = seen.2.2 := by
  obtain ⟨verdicts, handed, one⟩ := Option.map_eq_some_iff.mp known
  obtain ⟨next, frames, taken, grown, rfl⟩ := Sq.State.nextFrames_spec handed
  obtain ⟨frame, rfl⟩ : ∃ frame, frames = [frame] := by
    apply List.length_eq_one_iff.mp
    simpa using congrArg List.length one
  simp only [List.map_cons, List.map_nil, List.cons.injEq, and_true] at one
  refine ⟨next, frame, taken, grown, ?_, ?_, ?_⟩ <;> rw [← one]

/-- With the second advertised EID the fabric throws. -/
theorem advertised_eid_rejected :
    ¬ ∀ (fabric : Fabric) (source : Nat) (state next : Sq.State) (event : Sq.Event)
        (frame : Sq.Frame),
      Reaches (Sq.step (.small false)) Advertised (Sq.State.initial (.small false)) state →
      Sq.step (.small false) state event = some next →
      next.frames = state.frames ++ [frame] →
      fabric.endpoints[source]? = some 0x100 → fabric.ports ≤ 2 →
      (∃ destination, fabric.route (ofRequest frame).destinationEid = some destination ∧
        destination ≠ source) →
      (networkSend .network (ofRequest frame)).isSome = true →
      fabric.takes source (ofRequest frame) = true := by
  intro accepts
  obtain ⟨state, reached, seen⟩ := exists_of_execute
    (show (execute (Sq.step (.small false)) Advertised (writeEvents 1)
      (Sq.State.initial (.small false))).map nextTaken = some (some [(true, 0x200, false)]) by
        decide +kernel)
  obtain ⟨next, frame, taken, grown, accepted, destination, refused⟩ := nextTaken_spec seen
  have passes := accepts .pair 0 state next .run frame reached taken grown rfl (by decide)
    ⟨1, by rw [destination]; decide, by decide⟩ accepted
  simp [refused] at passes

end Udma.Wire
