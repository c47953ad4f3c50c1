import Udma.Sq.Frames
import Udma.Ummu.Transfer

/-!
# Remote service of one-sided requests

The target checks a request before it serves it, and drops it without a reply
when the check fails.  The source's own checks are different ones, so a request
that a source emits is answered exactly when it also passes those of the target.
-/

namespace Udma.Receive

open Abi (Bytes)
open Transition (Reaches always execute exists_of_execute)
open Ummu (Access Transfer TransferEvent transferStep)

/-- A request as the target receives it, with what the endpoints in between add. -/
structure Inbound where
  frame : Sq.Frame
  destinationPort : Nat
  taSsn : Nat
  transactionOffset : Nat

/-- A reply, with the addressing taken from the request. -/
structure Answer where
  sourceEid : Nat
  destinationEid : Nat
  sourcePort : Nat
  destinationPort : Nat
  sourceJetty : Nat
  destinationJetty : Nat
  tpn : Nat
  reply : Sq.Reply

namespace Inbound

variable (inbound : Inbound)

/-- The checks that both services make. -/
def placed : Bool :=
  decide (inbound.frame.remoteAddress ≠ 0) && decide (inbound.frame.transferLength ≠ 0) &&
    decide (inbound.frame.transferLength - 1 ≤ 2 ^ 64 - 1 - inbound.frame.remoteAddress)

/-- The access to guest memory; tokens have 32 and addresses 64 bits. -/
def access (maxOutstanding : Nat) : Access where
  token := inbound.frame.segment % 2 ^ 32
  address := inbound.frame.remoteAddress % 2 ^ 64
  length := inbound.frame.transferLength
  write := decide (inbound.frame.operation = .write)
  maxOutstanding := maxOutstanding
  token_lt := Nat.mod_lt _ (by decide)
  address_lt := Nat.mod_lt _ (by decide)

def answer (operation : Sq.ReplyOperation) (payload : Bytes) : Answer where
  sourceEid := inbound.frame.destinationEid
  destinationEid := inbound.frame.sourceEid
  sourcePort := inbound.destinationPort
  destinationPort := inbound.frame.sourcePort
  sourceJetty := inbound.frame.destinationJetty
  destinationJetty := inbound.frame.sourceJetty
  tpn := inbound.frame.tpn
  reply :=
    { operation := operation
      requestId := inbound.frame.requestId
      taSsn := inbound.taSsn
      transactionOffset := inbound.transactionOffset
      transferLength := inbound.frame.transferLength
      bytes := payload }

end Inbound

/-- A request that is being served, or that has been dropped. -/
inductive Service where
  | dropped
  | serving (transfer : Transfer)

def receiveWrite (inbound : Inbound) : Service :=
  if inbound.placed && inbound.frame.bytes.length == inbound.frame.transferLength then
    .serving (Ummu.writeToken inbound.frame.bytes)
  else .dropped

def receiveReadRequest (inbound : Inbound) (maxOutstanding : Nat) : Service :=
  if inbound.placed then .serving (Ummu.readToken (inbound.access maxOutstanding)) else .dropped

/-- The part of `Receive` that serves one-sided requests. -/
def receive (inbound : Inbound) (maxOutstanding : Nat) : Service :=
  match inbound.frame.operation with
  | .write => receiveWrite inbound
  | .readRequest => receiveReadRequest inbound maxOutstanding
  | .send | .sendImmediate => .dropped

/-- The completion of the access sends the reply. -/
def answerTo (inbound : Inbound) (result : Bool × Bytes) : Answer :=
  match inbound.frame.operation with
  | .write => inbound.answer (if result.1 then .writeAck else .rmaError) []
  | _ =>
      if result.1 && result.2.length == inbound.frame.transferLength then
        inbound.answer .readResponse result.2
      else inbound.answer .rmaError []

namespace Service

/-- The replies sent so far. -/
def answers (inbound : Inbound) : Service → List Answer
  | .dropped => []
  | .serving transfer => transfer.results.map (answerTo inbound)

/-- Every host callback has returned. -/
def Quiet : Service → Prop
  | .dropped => True
  | .serving transfer => transfer.Quiet

def step (inbound : Inbound) (maxOutstanding : Nat) :
    Service → TransferEvent → Option Service
  | .dropped, _ => none
  | .serving transfer, event =>
      (transferStep (inbound.access maxOutstanding) transfer event).map .serving

end Service

/-! ## Replies -/

/-- Every run of the service comes to rest, and then exactly one reply with the number
of the request has been sent. -/
structure Answered (inbound : Inbound) (maxOutstanding : Nat) : Prop where
  rests : ∀ service, Reaches (Service.step inbound maxOutstanding) always
      (receive inbound maxOutstanding) service →
    ∃ later, Reaches (Service.step inbound maxOutstanding) always service later ∧ later.Quiet
  once : ∀ service, Reaches (Service.step inbound maxOutstanding) always
      (receive inbound maxOutstanding) service → service.Quiet →
    ∃ answer, service.answers inbound = [answer] ∧
      answer.reply.requestId = inbound.frame.requestId

variable {inbound : Inbound} {maxOutstanding : Nat}

theorem answerTo_requestId (result : Bool × Bytes) :
    (answerTo inbound result).reply.requestId = inbound.frame.requestId := by
  unfold answerTo
  split
  · rfl
  · split <;> rfl

/-- A dropped request is never answered. -/
theorem not_answered_of_dropped (dropped : receive inbound maxOutstanding = .dropped) :
    ¬ Answered inbound maxOutstanding := by
  intro answered
  obtain ⟨answer, alone, _⟩ := answered.once .dropped (by rw [dropped]; exact .refl) trivial
  cases alone

/-- The runs of a service are runs of its access. -/
theorem serving_of_reaches {transfer : Transfer} {service : Service}
    (reached : Reaches (Service.step inbound maxOutstanding) always (.serving transfer) service) :
    ∃ later, service = .serving later ∧
      Reaches (transferStep (inbound.access maxOutstanding)) always transfer later := by
  induction reached with
  | refl => exact ⟨transfer, rfl, .refl⟩
  | tail _ taken _ inductionHypothesis =>
      obtain ⟨middle, rfl, earlier⟩ := inductionHypothesis
      obtain ⟨later, moved, rfl⟩ := Option.map_eq_some_iff.mp taken
      exact ⟨later, rfl, earlier.tail moved trivial⟩

/-- The runs of an access are runs of its service. -/
theorem reaches_serving {transfer later : Transfer}
    (reached : Reaches (transferStep (inbound.access maxOutstanding)) always transfer later) :
    Reaches (Service.step inbound maxOutstanding) always (.serving transfer) (.serving later) := by
  induction reached with
  | refl => exact .refl
  | tail _ taken _ inductionHypothesis =>
      exact inductionHypothesis.tail (Option.map_eq_some_iff.mpr ⟨_, taken, rfl⟩) trivial

/-- A request that is served is answered once. -/
theorem answered_of_serving (bytes : Bytes)
    (serving : receive inbound maxOutstanding = .serving { bytes := bytes }) :
    Answered inbound maxOutstanding where
  rests := by
    intro service reached
    rw [serving] at reached
    obtain ⟨transfer, rfl, _⟩ := serving_of_reaches reached
    obtain ⟨later, onward, quiet⟩ :=
      Transfer.exists_quiet (inbound.access maxOutstanding) transfer
    exact ⟨.serving later, reaches_serving onward, quiet⟩
  once := by
    intro service reached quiet
    rw [serving] at reached
    obtain ⟨transfer, rfl, run⟩ := serving_of_reaches reached
    have sound := Transfer.sound_of_reaches run
    obtain ⟨result, alone⟩ := List.length_eq_one_iff.mp (sound.completed_single quiet.2 quiet.1)
    refine ⟨answerTo inbound result, ?_, answerTo_requestId result⟩
    simp [Service.answers, alone]

theorem placed_iff :
    inbound.placed = true ↔ inbound.frame.remoteAddress ≠ 0 ∧ inbound.frame.transferLength ≠ 0 ∧
      inbound.frame.transferLength - 1 ≤ 2 ^ 64 - 1 - inbound.frame.remoteAddress := by
  simp only [Inbound.placed, Bool.and_eq_true, decide_eq_true_eq, and_assoc]

/-- A one-sided request that announces what it carries is served exactly when it is placed. -/
theorem answered_iff_placed (announced : inbound.frame.Announced)
    (oneSided : inbound.frame.operation = .write ∨ inbound.frame.operation = .readRequest) :
    Answered inbound maxOutstanding ↔ inbound.placed = true := by
  constructor
  · intro answered
    by_contra outside
    apply not_answered_of_dropped _ answered
    unfold receive receiveWrite receiveReadRequest
    rcases oneSided with operation | operation <;> simp [operation, outside]
  · intro placed
    rcases oneSided with operation | operation
    · have whole := announced operation
      apply answered_of_serving inbound.frame.bytes
      simp [receive, operation, receiveWrite, placed, whole, Ummu.writeToken]
    · apply answered_of_serving (List.replicate inbound.frame.transferLength 0)
      simp [receive, operation, receiveReadRequest, placed, Ummu.readToken, Inbound.access]

/-- A one-sided request that a source emits is answered exactly when it names an
address, is not empty and does not run over the end of the address space. -/
theorem request_answered_iff {config : Sq.Config} {source : Sq.State}
    (reached : Reaches (Sq.step config) always (Sq.State.initial config) source)
    {id position : Nat} {frame : Sq.Frame} (sent : .sent id position frame ∈ source.trace)
    (oneSided : frame.operation = .write ∨ frame.operation = .readRequest)
    (destinationPort taSsn transactionOffset maxOutstanding : Nat) :
    Answered ⟨frame, destinationPort, taSsn, transactionOffset⟩ maxOutstanding ↔
      frame.remoteAddress ≠ 0 ∧ frame.transferLength ≠ 0 ∧
        frame.transferLength - 1 ≤ 2 ^ 64 - 1 - frame.remoteAddress := by
  have announced : frame.Announced := Sq.announced_of_reaches reached sent
  rw [answered_iff_placed announced oneSided, placed_iff]

/-! ## Inline WRITEs -/

/-- A Jetty executes an inline WRITE of the given length to the address 0x8000. -/
def inlineWrite (length : Nat) : List Sq.Event :=
  Sq.opening 9 3 ++ [.doorbell 9 1] ++ Sq.runs 7 ++
    [.fire 0 true (Abi.SqWqe.image true 0 (1 <<< 6) (3 ||| (length <<< 14)) 1 0x8000 ⟨0, 0, 0⟩)] ++
    Sq.runs 6

/-- The frame an inline WRITE is sent in. -/
theorem inlineWrite_sent {length : Nat}
    (executed : (execute (Sq.step (.small false)) always (inlineWrite length)
        (Sq.State.initial (.small false))).map (fun state => state.frames.map fun frame =>
          (frame.operation, frame.remoteAddress, frame.transferLength)) =
      some [(.write, 0x8000, length)]) :
    ∃ source id position frame,
      Reaches (Sq.step (.small false)) always (Sq.State.initial (.small false)) source ∧
      Sq.Observation.sent id position frame ∈ source.trace ∧ frame.operation = .write ∧
      frame.remoteAddress = 0x8000 ∧ frame.transferLength = length := by
  obtain ⟨source, reached, seen⟩ := exists_of_execute executed
  obtain ⟨frame, alone, shape⟩ := List.map_eq_singleton_iff.mp seen
  simp only [Prod.mk.injEq] at shape
  have membership : frame ∈ source.frames := by rw [alone]; exact List.mem_singleton_self _
  obtain ⟨observation, observed, selected⟩ := Collections.mem_gather.mp membership
  cases observation <;> cases selected
  exact ⟨source, _, _, frame, reached, observed, shape⟩

theorem inline_write_answered :
    ∃ frame : Sq.Frame, frame.operation = .write ∧ frame.transferLength = 4 ∧
      Answered ⟨frame, 0, 0, 0⟩ 1 := by
  obtain ⟨source, id, position, frame, reached, sent, operation, address, length⟩ :=
    inlineWrite_sent (show _ = some [(Sq.Operation.write, 0x8000, 4)] by decide +kernel)
  refine ⟨frame, operation, length, ?_⟩
  apply (request_answered_iff reached sent (.inl operation) 0 0 0 1).mpr
  rw [address, length]
  decide

/-- A source accepts an inline WRITE of no bytes, and the target drops it. -/
theorem empty_write_unanswered :
    ∃ source id position frame,
      Reaches (Sq.step (.small false)) always (Sq.State.initial (.small false)) source ∧
      Sq.Observation.sent id position frame ∈ source.trace ∧ frame.operation = .write ∧
      ¬ Answered ⟨frame, 0, 0, 0⟩ 1 := by
  obtain ⟨source, id, position, frame, reached, sent, operation, address, length⟩ :=
    inlineWrite_sent (show _ = some [(Sq.Operation.write, 0x8000, 0)] by decide +kernel)
  refine ⟨source, id, position, frame, reached, sent, operation, ?_⟩
  apply not_answered_of_dropped
  simp [receive, operation, receiveWrite, Inbound.placed, length]

end Udma.Receive
