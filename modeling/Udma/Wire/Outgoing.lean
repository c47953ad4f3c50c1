import Udma.Transition.Run
import Udma.Wire.Format

/-!
# The outgoing queue of `NetworkPort`

`Send` cuts a frame into fragments and queues them; `FlushOne` moves the first
fragment of the queue into the ring.  Requests are cut to the size of a ring
entry.  Target completions and raw frames are queued as one fragment, and their
size is only looked at by `SendWire`, which answers as if the ring were full.
-/

namespace Udma.Wire

open Udma.Transition

namespace Frame

variable (ring : Ring) (frame : Frame)

/-- The bytes that travel: a READ request has none. -/
def payload : Bytes := if frame.operation = .readRequest then [] else frame.bytes

/-- The length the transfer is announced with. -/
def logicalTotal : Nat :=
  if frame.operation = .readRequest then frame.transferLength.toNat else frame.bytes.length

/-- The size of the piece at `offset`. -/
def chunk (offset : Nat) : Nat :=
  if frame.operation.targetCompletion then frame.payload.length
  else min ring.payloadCapacity (frame.payload.length - offset)

def fragmented : Bool :=
  !frame.operation.targetCompletion && decide (ring.payloadCapacity < frame.payload.length)

def isLast (offset : Nat) : Bool :=
  frame.operation.targetCompletion ||
    decide (offset + frame.chunk ring offset = frame.payload.length)

def flags (offset : Nat) : UInt16 :=
  (if frame.operation.targetCompletion then ctpSegmentFlag else 0) |||
    orderFlags frame.orderType |||
    (if frame.fragmented ring then fragmentedFlag else 0) |||
    (if frame.isLast ring offset then lastFragmentFlag else 0)

def header (offset : Nat) : Header where
  magic := wireMagic
  version := wireVersion
  operation := frame.operation.code
  flags := frame.flags ring offset
  sourceJetty := frame.sourceJetty
  destinationJetty := frame.destinationJetty
  tpn := frame.tpn
  segment := frame.segment
  remoteAddress := frame.remoteAddress
  immediate := frame.immediate
  requestId := frame.requestId
  taSsn := if frame.operation.targetCompletion then frame.taSsn else 0
  transferLength :=
    if frame.operation.request then .ofNat frame.logicalTotal else frame.transferLength
  payloadLength := .ofNat (frame.chunk ring offset)
  payloadOffset :=
    if frame.operation.targetCompletion then frame.transactionOffset else .ofNat offset

def fragment (offset : Nat) : Bytes :=
  (frame.header ring offset).encode ++
    (frame.payload.drop offset).take (frame.chunk ring offset)

/-- The loop of `Send`.  Every piece but the last holds at least a byte, so the length of
the payload bounds the iterations. -/
def fragments : (iterations offset : Nat) → List Bytes
  | 0, offset => [frame.fragment ring offset]
  | iterations + 1, offset =>
      if offset + frame.chunk ring offset < frame.payload.length then
        frame.fragment ring offset ::
          fragments iterations (offset + frame.chunk ring offset)
      else [frame.fragment ring offset]

end Frame

/-- The fragments `Send` queues; with none it calls the completion with `false`. -/
def networkSend (ring : Ring) (frame : Frame) : Option (List Bytes) :=
  if frame.operation = .raw then some [frame.bytes]
  else if ring.entryBytes ≤ messageBytes + headerBytes then none
  else if (frame.operation = .send ∨ frame.operation = .sendImmediate) ∧
      ctpMaxSegmentBytes < frame.bytes.length then none
  else if !frame.operation.request && !frame.operation.targetCompletion then none
  else some (frame.fragments ring frame.payload.length 0)

structure PendingSend where
  frame : Frame
  fragments : List Bytes
  next : Nat
  /-- Stands for the completion the sender passed. -/
  completion : Nat

structure Port where
  outgoing : List PendingSend := []
  /-- Entries put into the ring, in order. -/
  sent : List Message := []
  /-- Completions called, with their result. -/
  completions : List (Nat × Bool) := []

namespace Port

def send (ring : Ring) (port : Port) (frame : Frame) (completion : Nat) : Port :=
  match networkSend ring frame with
  | none => { port with completions := port.completions ++ [(completion, false)] }
  | some fragments =>
      { port with
        outgoing := port.outgoing ++ [⟨{ frame with bytes := [] }, fragments, 0, completion⟩] }

end Port

def wireMessage (frame : Frame) (wire : Bytes) : Message where
  sequence := frame.sequence
  sourceEid := frame.sourceEid
  destinationEid := frame.destinationEid
  sourcePort := frame.sourcePort
  destinationPort := frame.destinationPort
  bytes := wire

/-- `SendWire`, on a ring that has a free entry or not. -/
def sendWire (ring : Ring) (free : Bool) (frame : Frame) (wire : Bytes) : Option Message :=
  if wire.length ≤ ring.capacity ∧ free then some (wireMessage frame wire) else none

/-- `FlushOne`: whether a fragment went out. -/
def flushOne (ring : Ring) (free : Bool) (port : Port) : Bool × Port :=
  match port.outgoing with
  | [] => (false, port)
  | pending :: rest =>
      match pending.fragments[pending.next]? with
      | none => (false, port)
      | some wire =>
          match sendWire ring free pending.frame wire with
          | none => (false, port)
          | some message =>
              if pending.next + 1 = pending.fragments.length then
                (true, { outgoing := rest
                         sent := port.sent ++ [message]
                         completions := port.completions ++ [(pending.completion, true)] })
              else
                (true, { port with
                  outgoing := { pending with next := pending.next + 1 } :: rest
                  sent := port.sent ++ [message] })

/-! ## Sizes -/

/-- The size of a frame that is not cut fits an entry. -/
def Frame.fits (ring : Ring) (frame : Frame) : Bool :=
  match frame.operation with
  | .raw => decide (frame.bytes.length ≤ ring.capacity)
  | .writeAck | .readResponse | .rmaError =>
      decide (headerBytes + frame.bytes.length ≤ ring.capacity)
  | _ => true

namespace Frame

variable {ring : Ring} {frame : Frame}

theorem fragment_length (offset : Nat) :
    (frame.fragment ring offset).length =
      headerBytes + min (frame.chunk ring offset) (frame.payload.length - offset) := by
  simp [fragment]

theorem request_not_completion (request : frame.operation.request = true) :
    frame.operation.targetCompletion = false := by
  cases operation : frame.operation <;> simp_all [Operation.request, Operation.targetCompletion]

theorem chunk_of_request (request : frame.operation.request = true) (offset : Nat) :
    frame.chunk ring offset = min ring.payloadCapacity (frame.payload.length - offset) := by
  simp [chunk, request_not_completion request]

/-- A request is cut into pieces that fit. -/
theorem fragments_fit (request : frame.operation.request = true)
    (room : messageBytes + headerBytes < ring.entryBytes) {iterations offset : Nat} :
    ∀ fragment ∈ frame.fragments ring iterations offset, fragment.length ≤ ring.capacity := by
  have single : ∀ offset, (frame.fragment ring offset).length ≤ ring.capacity := by
    intro offset
    rw [fragment_length, chunk_of_request request]
    unfold Ring.capacity Ring.payloadCapacity
    omega
  induction iterations generalizing offset with
  | zero =>
      intro fragment membership
      obtain rfl := List.mem_singleton.mp membership
      exact single offset
  | succ iterations inductionHypothesis =>
      intro fragment membership
      unfold fragments at membership
      split at membership
      next more =>
        rcases List.mem_cons.mp membership with rfl | later
        · exact single offset
        · exact inductionHypothesis fragment later
      next done =>
        obtain rfl := List.mem_singleton.mp membership
        exact single offset

/-- A target completion is one fragment. -/
theorem fragments_of_completion (completion : frame.operation.targetCompletion = true)
    (iterations : Nat) :
    frame.fragments ring iterations 0 = [frame.fragment ring 0] ∧
      (frame.fragment ring 0).length = headerBytes + frame.bytes.length := by
  have whole : frame.chunk ring 0 = frame.payload.length := by simp [chunk, completion]
  have carried : frame.payload = frame.bytes := by
    unfold payload
    rw [if_neg]
    intro read
    simp [read, Operation.targetCompletion] at completion
  refine ⟨?_, ?_⟩
  · cases iterations with
    | zero => rfl
    | succ iterations => simp [fragments, whole]
  · rw [fragment_length, whole, carried]
    simp

end Frame

theorem networkSend_fit_iff {ring : Ring} {frame : Frame} {fragments : List Bytes}
    (accepted : networkSend ring frame = some fragments) :
    (∀ fragment ∈ fragments, fragment.length ≤ ring.capacity) ↔ frame.fits ring = true := by
  unfold networkSend at accepted
  split at accepted
  next raw =>
    obtain rfl := Option.some.inj accepted
    simp [Frame.fits, raw]
  next cooked =>
    split at accepted
    next => simp at accepted
    next room =>
      split at accepted
      next => simp at accepted
      next short =>
        split at accepted
        next => simp at accepted
        next known =>
          obtain rfl := Option.some.inj accepted
          cases completion : frame.operation.targetCompletion with
          | true =>
              obtain ⟨single, length⟩ : _ ∧ (frame.fragment ring 0).length = _ :=
                Frame.fragments_of_completion completion frame.payload.length
              have fits : frame.fits ring = decide (headerBytes + frame.bytes.length ≤
                  ring.capacity) := by
                unfold Frame.fits
                cases operation : frame.operation <;>
                  simp_all [Operation.targetCompletion]
              rw [single, fits]
              simp [length]
          | false =>
              have request : frame.operation.request = true := by simpa [completion] using known
              have fits : frame.fits ring = true := by
                unfold Frame.fits
                cases operation : frame.operation <;> simp_all [Operation.request]
              simp only [fits, iff_true]
              exact Frame.fragments_fit request (by omega)

/-- What is queued has at least one fragment. -/
theorem networkSend_nonempty {ring : Ring} {frame : Frame} {fragments : List Bytes}
    (accepted : networkSend ring frame = some fragments) : fragments ≠ [] := by
  have loop : ∀ iterations offset, frame.fragments ring iterations offset ≠ [] := by
    intro iterations offset
    cases iterations with
    | zero => simp [Frame.fragments]
    | succ iterations =>
        unfold Frame.fragments
        split <;> simp
  unfold networkSend at accepted
  split at accepted
  next => simp [← Option.some.inj accepted]
  next =>
    split at accepted
    next => simp at accepted
    next =>
      split at accepted
      next => simp at accepted
      next =>
        split at accepted
        next => simp at accepted
        next =>
          rw [← Option.some.inj accepted]
          exact loop _ _

/-! ## Runs -/

inductive PortEvent where
  | send (frame : Frame) (completion : Nat)
  /-- `FlushOne`, with a free entry in the ring or not. -/
  | flush (free : Bool)

def portStep (ring : Ring) (port : Port) : PortEvent → Option Port
  | .send frame completion => some (port.send ring frame completion)
  | .flush free => some (flushOne ring free port).2

/-- Every frame that is not cut fits an entry of the ring. -/
def Fitting (ring : Ring) (_before : Port) : PortEvent → Port → Prop
  | .send frame _, _ => frame.fits ring = true
  | .flush _, _ => True

instance (ring : Ring) (before : Port) (event : PortEvent) (after : Port) :
    Decidable (Fitting ring before event after) := by
  unfold Fitting
  rcases event with _ | _ <;> infer_instance

/-- Every queued fragment fits an entry, and the front one exists. -/
structure PendingSend.Ready (ring : Ring) (pending : PendingSend) : Prop where
  inside : pending.next < pending.fragments.length
  fits : ∀ fragment ∈ pending.fragments, fragment.length ≤ ring.capacity

def Port.Ready (ring : Ring) (port : Port) : Prop :=
  ∀ pending ∈ port.outgoing, pending.Ready ring

/-- Fragments that are still to be sent. -/
def Port.remaining (port : Port) : Nat :=
  (port.outgoing.map fun pending => pending.fragments.length - pending.next).sum

/-- `FlushOne` with a free entry each time. -/
def flushes (ring : Ring) : Nat → Port → Port
  | 0, port => port
  | count + 1, port => flushes ring count (flushOne ring true port).2

/-- Every queued fragment fits, a free entry means progress, and free entries for what is
queued empty the queue. -/
structure Port.Flowing (ring : Ring) (port : Port) : Prop where
  fits : ∀ pending ∈ port.outgoing, ∀ fragment ∈ pending.fragments,
    fragment.length ≤ ring.capacity
  progress : port.outgoing ≠ [] → (flushOne ring true port).1 = true
  drains : (flushes ring port.remaining port).outgoing = []

namespace Port.Ready

variable {ring : Ring} {port : Port}

theorem send (ready : port.Ready ring) {frame : Frame} (fits : frame.fits ring = true)
    (completion : Nat) : (port.send ring frame completion).Ready ring := by
  unfold Port.send
  split
  next => exact ready
  next fragments accepted =>
    intro pending membership
    rcases List.mem_append.mp membership with old | new
    · exact ready pending old
    · obtain rfl := List.mem_singleton.mp new
      exact ⟨List.length_pos_iff.mpr (networkSend_nonempty accepted),
        (networkSend_fit_iff accepted).mpr fits⟩

/-- A flush with a free entry takes one fragment off a queue that is not empty. -/
theorem flush_free (ready : port.Ready ring) (queued : port.outgoing ≠ []) :
    (flushOne ring true port).1 = true ∧ (flushOne ring true port).2.Ready ring ∧
      (flushOne ring true port).2.remaining + 1 = port.remaining := by
  obtain ⟨pending, rest, shape⟩ := List.exists_cons_of_ne_nil queued
  have front : pending.Ready ring := ready pending (by simp [shape])
  have later : ∀ other ∈ rest, other.Ready ring := fun other known =>
    ready other (by simp [shape, known])
  obtain ⟨wire, current, small⟩ : ∃ wire, pending.fragments[pending.next]? = some wire ∧
      wire.length ≤ ring.capacity :=
    ⟨_, List.getElem?_eq_getElem front.inside, front.fits _ (List.getElem_mem front.inside)⟩
  have written : sendWire ring true pending.frame wire = some (wireMessage pending.frame wire) := by
    simp [sendWire, small]
  have inside := front.inside
  unfold flushOne
  rw [shape]
  simp only [current, written, remaining, shape, List.map_cons, List.sum_cons]
  split
  next last =>
    refine ⟨rfl, later, ?_⟩
    dsimp only
    omega
  next more =>
    refine ⟨rfl, ?_, ?_⟩
    · intro other membership
      rcases List.mem_cons.mp membership with rfl | known
      · exact ⟨by dsimp only; omega, front.fits⟩
      · exact later other known
    · simp only [List.map_cons, List.sum_cons]
      omega

theorem flush_full : (flushOne ring false port).2 = port := by
  unfold flushOne
  split
  next => rfl
  next pending rest shape =>
    split
    next => rfl
    next wire current => simp [sendWire]

theorem flush (ready : port.Ready ring) (free : Bool) :
    (flushOne ring free port).2.Ready ring := by
  cases free with
  | false => rwa [flush_full]
  | true =>
      by_cases queued : port.outgoing = []
      · have same : (flushOne ring true port).2 = port := by
          unfold flushOne
          rw [queued]
        rwa [same]
      · exact (ready.flush_free queued).2.1

theorem drains (ready : port.Ready ring) :
    (flushes ring port.remaining port).outgoing = [] := by
  induction count : port.remaining generalizing port with
  | zero =>
      by_contra queued
      have := (ready.flush_free queued).2.2
      omega
  | succ count inductionHypothesis =>
      have queued : port.outgoing ≠ [] := by
        intro empty
        simp [remaining, empty] at count
      obtain ⟨_, still, fewer⟩ := ready.flush_free queued
      exact inductionHypothesis still (by omega)

end Port.Ready

theorem outgoing_never_blocked (ring : Ring) :
    (∀ frame fragments, networkSend ring frame = some fragments →
      ((∀ fragment ∈ fragments, fragment.length ≤ ring.capacity) ↔ frame.fits ring = true)) ∧
    ∀ port, Reaches (portStep ring) (Fitting ring) {} port → port.Flowing ring := by
  refine ⟨fun frame fragments accepted => networkSend_fit_iff accepted, ?_⟩
  intro port reached
  have ready : port.Ready ring := by
    refine reached.induction_on (fun port => port.Ready ring) (by simp [Port.Ready]) ?_
    intro before event after _ ready taken allowed
    cases event with
    | send frame completion =>
        obtain rfl := Option.some.inj taken
        exact ready.send allowed completion
    | flush free =>
        obtain rfl := Option.some.inj taken
        exact ready.flush free
  exact ⟨fun pending membership => (ready pending membership).fits,
    fun queued => (ready.flush_free queued).1, ready.drains⟩

/-- A frame with nothing but its operation and payload. -/
def Frame.plain (operation : Operation) (bytes : Bytes) : Frame where
  sequence := 1
  sourceEid := 0x100
  destinationEid := 0x200
  sourcePort := 0
  destinationPort := 0
  operation := operation
  orderType := 0
  sourceJetty := 9
  destinationJetty := 9
  tpn := 1
  segment := 0
  remoteAddress := 0x8000
  immediate := 0
  requestId := 1
  taSsn := 0
  transactionOffset := 0
  transferLength := .ofNat bytes.length
  bytes := bytes

/-- Entries of 256 bytes, with 128 for the payload. -/
def Ring.small : Ring := ⟨256, by decide⟩

/-- A WRITE of 200 bytes in two fragments behind a READ response of 100. -/
theorem write_behind_response_flows :
    ∃ port, Reaches (portStep .small) (Fitting .small) {} port ∧ port.remaining = 3 ∧
      port.Flowing .small := by
  let events : List PortEvent := [.send (.plain .readResponse (List.replicate 100 0)) 1,
    .send (.plain .write (List.replicate 200 0)) 2]
  obtain ⟨port, reached, three⟩ := exists_of_execute
    (show (execute (portStep .small) (Fitting .small) events {}).map Port.remaining = some 3 by
      decide +kernel)
  exact ⟨port, reached, three, (outgoing_never_blocked .small).2 port reached⟩

/-- A READ response of 200 bytes is accepted and never leaves. -/
theorem large_response_blocks :
    ¬ ∀ (ring : Ring) (port : Port), Reaches (portStep ring) always {} port →
      port.Flowing ring := by
  intro flowing
  obtain ⟨port, reached, seen⟩ := exists_of_execute
    (show (execute (portStep .small) always
      [.send (.plain .readResponse (List.replicate 200 0)) 1] {}).map
        (fun port => (port.outgoing.isEmpty, (flushOne .small true port).1)) =
          some (false, false) by decide +kernel)
  obtain ⟨queued, stuck⟩ := Prod.mk.injEq .. |>.mp seen
  have moving := (flowing .small port reached).progress (by simpa using queued)
  simp [stuck] at moving

end Udma.Wire
