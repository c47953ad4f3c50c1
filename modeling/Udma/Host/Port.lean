import Udma.Collections.Tally
import Udma.Transition.Script
import Udma.Wire.Format

/-!
# Back-pressure on the host ring

`HostPort` takes an entry of the outgoing ring for every MMIO completion, DMA
request and interrupt.  When there is none it drops the MMIO request, reports the
DMA as failed, or drops the interrupt.

The model behind the port is arbitrary: it reacts to each input with a
computation that calls the port and is told at once whether a DMA failed.  The
`n`-th allocation finds the ring full when `full n` says so.
-/

namespace Udma.Host

open Udma.Collections Udma.Transition
open Wire (Bytes)

/-! ## Messages and calls -/

inductive AddressKind where
  | guestPhysical
  | ioVirtual
  | msi
  deriving DecidableEq, Repr

/-- A DMA, with the completion that the model passed. -/
structure Dma where
  address : Nat
  length : Nat
  read : Bool
  payload : Bytes := []
  addressKind : AddressKind := .guestPhysical
  pasid : Nat := 0
  completion : Nat
  deriving DecidableEq, Repr

inductive InterruptAction where
  | lower
  | raise
  | pulse
  deriving DecidableEq, Repr

/-- What the model calls on the port. -/
inductive Call where
  /-- `DmaRead`, `DmaWrite` and their variants. -/
  | dma (dma : Dma)
  | msiWrite (physicalAddress data completion : Nat)
  | interrupt (vector : Nat) (action : InterruptAction)
  deriving DecidableEq, Repr

inductive D2H where
  | mmioCompletion (requestId length value : Nat) (success : Bool)
  | dma (requestId : Nat) (dma : Dma)
  | interrupt (sequence vector : Nat) (action : InterruptAction)
  deriving DecidableEq, Repr

structure MmioRequest where
  requestId : Nat
  offset : Nat
  length : Nat
  value : Nat
  deriving DecidableEq, Repr

structure DmaCompletion where
  requestId : Nat
  read : Bool
  status : Nat
  length : Nat
  bytes : Bytes
  deriving DecidableEq, Repr

/-- History: what came in, and what became of it. -/
inductive Observation where
  | polled (request : MmioRequest)
  | applied (request : MmioRequest)
  | answered (request : MmioRequest)
  | issued (dma : Dma)
  | forwarded (dma : Dma)
  | raised (vector : Nat) (action : InterruptAction)
  | delivered (vector : Nat) (action : InterruptAction)
  deriving DecidableEq, Repr

/-- The `UdmaModel` behind the port.  What it does with a DMA that fails inside the call
belongs to the rest of the computation. -/
structure Device (Model : Type) where
  readMmio : Model → (offset length : Nat) → Script Call Bool (Model × Option Nat)
  writeMmio : Model → (offset length value : Nat) → Script Call Bool (Model × Bool)
  completed : Model → (completion : Nat) → (ok : Bool) → Bytes → Script Call Bool Model
  /-- Frames, timers and everything else that does not come from the host. -/
  other : Model → (input : Nat) → Script Call Bool Model

structure Pending where
  completion : Nat
  requestedLength : Nat
  isRead : Bool
  deriving DecidableEq, Repr

structure Port where
  nextRequest : Nat := 1
  pending : List (Nat × Pending) := []
  /-- Entries of the ring in the order of their allocation. -/
  out : List D2H := []
  /-- Allocations tried so far. -/
  allocations : Nat := 0
  trace : List Observation := []
  deriving DecidableEq

namespace Port

def emit (port : Port) (observation : Observation) : Port :=
  { port with trace := port.trace ++ [observation] }

/-- An allocation was tried. -/
def allocate (port : Port) : Port := { port with allocations := port.allocations + 1 }

end Port

/-! ## The port -/

section Functions

variable {Model : Type} (device : Device Model) (payloadCapacity inElen : Nat)
  (full : Nat → Bool)

def sendDma (port : Port) (dma : Dma) : Port × Bool :=
  let asked := (port.emit (.issued dma)).allocate
  if full port.allocations then (asked, false)
  else
    ({ asked with
      nextRequest := port.nextRequest + 1
      pending := port.pending ++ [(port.nextRequest, Pending.mk dma.completion dma.length dma.read)]
      out := port.out ++ [D2H.dma port.nextRequest dma] }.emit (.forwarded dma), true)

def sendInterrupt (port : Port) (vector : Nat) (action : InterruptAction) : Port :=
  let asked := (port.emit (.raised vector action)).allocate
  if full port.allocations then asked
  else
    { asked with
      nextRequest := port.nextRequest + 1
      out := port.out ++ [D2H.interrupt port.nextRequest vector action] }.emit
        (.delivered vector action)

/-- One call of the model, and whether a DMA failed inside it. -/
def perform (port : Port) : Call → Port × Bool
  | .dma dma =>
      if payloadCapacity < dma.length then (port, false) else sendDma full port dma
  | .msiWrite physicalAddress data completion =>
      sendDma full port
        { address := physicalAddress, length := 4, read := false
          payload := Arithmetic.toLittleEndian 4 data, addressKind := .msi
          completion := completion }
  | .interrupt vector action => (sendInterrupt full port vector action, true)

/-- The model runs until it returns. -/
def serve {Result : Type} : Script Call Bool Result → Port → Port × Result
  | .done result, port => (port, result)
  | .ask call resume, port =>
      let answered := perform payloadCapacity full port call
      serve (resume answered.2) answered.1

/-- Fill the entry that was allocated before the model ran. -/
def Port.answer (before after : Port) (request : MmioRequest) (value : Nat) (success : Bool) :
    Port :=
  { after with
    out := before.out ++
      D2H.mmioCompletion request.requestId request.length value success ::
        after.out.drop before.out.length }.emit (.answered request)

def handleMmio (port : Port) (model : Model) (request : MmioRequest) (write : Bool) :
    Port × Model :=
  let asked := (port.emit (.polled request)).allocate
  if full port.allocations then (asked, model)
  else
    let begun := asked.emit (.applied request)
    if write then
      let served := serve payloadCapacity full
        (device.writeMmio model request.offset request.length request.value) begun
      (port.answer served.1 request 0 served.2.2, served.2.1)
    else
      let served := serve payloadCapacity full
        (device.readMmio model request.offset request.length) begun
      (port.answer served.1 request (served.2.2.getD 0) served.2.2.isSome, served.2.1)

/-- The checks of `HandleDmaCompletion`, and the bytes the callback gets. -/
def accepts (pending : Pending) (completion : DmaCompletion) : Option (Bool × Bytes) :=
  let ok := completion.status == 0
  if completion.read ≠ pending.isRead ∨ 4 < completion.status ∨
      (completion.length ≠ pending.requestedLength ∧ (ok ∨ completion.length ≠ 0)) then none
  else if pending.isRead && ok then
    if inElen < Wire.messageBytes ∨ inElen - Wire.messageBytes < completion.length then none
    else some (ok, completion.bytes.take completion.length)
  else some (ok, [])

/-- An exception stops the process. -/
def handleDmaCompletion (port : Port) (model : Model) (completion : DmaCompletion) :
    Option (Port × Model) :=
  match port.pending.find? (fun entry => entry.1 == completion.requestId) with
  | none => none
  | some (id, pending) =>
      match accepts inElen pending completion with
      | none => none
      | some (ok, bytes) =>
          some (serve payloadCapacity full
            (device.completed model pending.completion ok bytes)
            { port with pending := port.pending.eraseP fun entry => entry.1 == id })

inductive Input where
  | mmio (request : MmioRequest) (write : Bool)
  | dmaCompletion (completion : DmaCompletion)
  | other (input : Nat)
  deriving DecidableEq, Repr

def react (port : Port) (model : Model) : Input → Option (Port × Model)
  | .mmio request write =>
      some (handleMmio device payloadCapacity full port model request write)
  | .dmaCompletion completion =>
      handleDmaCompletion device payloadCapacity inElen full port model completion
  | .other input => some (serve payloadCapacity full (device.other model input) port)

def run : List Input → Port × Model → Option (Port × Model)
  | [], state => some state
  | input :: inputs, state =>
      match react device payloadCapacity inElen full state.1 state.2 input with
      | none => none
      | some next => run inputs next

end Functions

/-! ## What is lost -/

namespace Observation

def isPolled : Observation → Option MmioRequest
  | .polled request => some request
  | _ => none

def isApplied : Observation → Option MmioRequest
  | .applied request => some request
  | _ => none

def isAnswered : Observation → Option MmioRequest
  | .answered request => some request
  | _ => none

def isIssued : Observation → Option Dma
  | .issued dma => some dma
  | _ => none

def isForwarded : Observation → Option Dma
  | .forwarded dma => some dma
  | _ => none

def isRaised : Observation → Option (Nat × InterruptAction)
  | .raised vector action => some (vector, action)
  | _ => none

def isDelivered : Observation → Option (Nat × InterruptAction)
  | .delivered vector action => some (vector, action)
  | _ => none

end Observation

attribute [simp] Observation.isPolled Observation.isApplied Observation.isAnswered
  Observation.isIssued Observation.isForwarded Observation.isRaised Observation.isDelivered

/-- Every request was applied and answered once, every DMA within the capacity reached the
host and every interrupt was delivered, in order. -/
structure Transparent (trace : List Observation) : Prop where
  applied : gather Observation.isApplied trace = gather Observation.isPolled trace
  answered : gather Observation.isAnswered trace = gather Observation.isPolled trace
  forwarded : gather Observation.isForwarded trace = gather Observation.isIssued trace
  delivered : gather Observation.isDelivered trace = gather Observation.isRaised trace

/-- The allocation is asked for one thing, and does it when it succeeds. -/
inductive Pairs : Observation → Observation → Prop where
  | mmio (request : MmioRequest) : Pairs (.polled request) (.applied request)
  | dma (dma : Dma) : Pairs (.issued dma) (.forwarded dma)
  | interrupt (vector : Nat) (action : InterruptAction) :
      Pairs (.raised vector action) (.delivered vector action)

/-- No allocation so far met a full ring. -/
def Port.Spared (full : Nat → Bool) (port : Port) : Prop :=
  ∀ index < port.allocations, full index = false

/-- Every failed allocation lost one thing; without one nothing is lost. -/
structure Port.Books (full : Nat → Bool) (port : Port) : Prop where
  counted : (gather Observation.isPolled port.trace).length +
      (gather Observation.isIssued port.trace).length +
      (gather Observation.isRaised port.trace).length =
    (gather Observation.isApplied port.trace).length +
      (gather Observation.isForwarded port.trace).length +
      (gather Observation.isDelivered port.trace).length +
      (List.range port.allocations).countP full
  spared : port.Spared full →
    gather Observation.isApplied port.trace = gather Observation.isPolled port.trace ∧
    gather Observation.isForwarded port.trace = gather Observation.isIssued port.trace ∧
    gather Observation.isDelivered port.trace = gather Observation.isRaised port.trace

namespace Port

variable {full : Nat → Bool} {port after : Port}

theorem Spared.earlier (spared : after.Spared full)
    (more : port.allocations ≤ after.allocations) : port.Spared full :=
  fun index inside => spared index (Nat.lt_of_lt_of_le inside more)

/-- One allocation. -/
theorem Books.allocated (books : port.Books full) {asked done : Observation}
    (pairs : Pairs asked done) (count : after.allocations = port.allocations + 1)
    (trace : after.trace =
      port.trace ++ if full port.allocations then [asked] else [asked, done]) :
    after.Books full := by
  have counted := books.counted
  refine ⟨?_, ?_⟩
  · rw [trace, count, List.range_succ, List.countP_append]
    cases met : full port.allocations <;> cases pairs <;> simp [met] <;> omega
  · intro spared
    have free : full port.allocations = false := spared _ (by omega)
    obtain ⟨applied, forwarded, delivered⟩ := books.spared (spared.earlier (by omega))
    rw [trace]
    cases pairs <;> simp [free, applied, forwarded, delivered]

/-- A call of the model: the books stay right and nothing happens to MMIO requests. -/
structure Called (full : Nat → Bool) (port after : Port) : Prop where
  books : port.Books full → after.Books full
  more : port.allocations ≤ after.allocations
  polled : gather Observation.isPolled after.trace = gather Observation.isPolled port.trace
  answered : gather Observation.isAnswered after.trace = gather Observation.isAnswered port.trace
  applied : gather Observation.isApplied after.trace = gather Observation.isApplied port.trace

theorem Called.refl (full : Nat → Bool) (port : Port) : Called full port port :=
  ⟨id, Nat.le_refl _, rfl, rfl, rfl⟩

theorem Called.trans {middle : Port} (first : Called full port middle)
    (second : Called full middle after) : Called full port after where
  books := second.books ∘ first.books
  more := Nat.le_trans first.more second.more
  polled := second.polled.trans first.polled
  answered := second.answered.trans first.answered
  applied := second.applied.trans first.applied

end Port

open Port

variable {full : Nat → Bool} {payloadCapacity inElen : Nat}

theorem sendDma_called (port : Port) (dma : Dma) :
    Called full port (sendDma full port dma).1 := by
  unfold sendDma
  split
  next met =>
    refine ⟨fun books => books.allocated (.dma dma) rfl ?_, Nat.le_succ _, ?_, ?_, ?_⟩
    · simp [Port.emit, allocate, met]
    all_goals simp [Port.emit, allocate]
  next free =>
    refine ⟨fun books => books.allocated (.dma dma) rfl ?_, Nat.le_succ _, ?_, ?_, ?_⟩
    · simp [Port.emit, allocate, free]
    all_goals simp [Port.emit, allocate]

theorem sendInterrupt_called (port : Port) (vector : Nat) (action : InterruptAction) :
    Called full port (sendInterrupt full port vector action) := by
  unfold sendInterrupt
  split
  next met =>
    refine ⟨fun books => books.allocated (.interrupt vector action) rfl ?_, Nat.le_succ _,
      ?_, ?_, ?_⟩
    · simp [Port.emit, allocate, met]
    all_goals simp [Port.emit, allocate]
  next free =>
    refine ⟨fun books => books.allocated (.interrupt vector action) rfl ?_, Nat.le_succ _,
      ?_, ?_, ?_⟩
    · simp [Port.emit, allocate, free]
    all_goals simp [Port.emit, allocate]

theorem perform_called (port : Port) (call : Call) :
    Called full port (perform payloadCapacity full port call).1 := by
  cases call with
  | dma dma =>
      simp only [perform]
      split
      next => exact .refl full port
      next => exact sendDma_called port dma
  | msiWrite physicalAddress data completion => exact sendDma_called port _
  | interrupt vector action => exact sendInterrupt_called port vector action

theorem serve_called {Result : Type} (script : Script Call Bool Result) (port : Port) :
    Called full port (serve payloadCapacity full script port).1 := by
  induction script generalizing port with
  | done result => exact .refl full port
  | ask call resume inductionHypothesis =>
      exact (perform_called port call).trans (inductionHypothesis _ _)

/-! ## The unbounded queue -/

/-- A ring that is never full. -/
def never (_index : Nat) : Bool := false

theorem perform_never (port : Port) (call : Call)
    (spared : (perform payloadCapacity full port call).1.Spared full) :
    perform payloadCapacity never port call = perform payloadCapacity full port call := by
  have dma : ∀ dma, (sendDma full port dma).1.Spared full →
      sendDma never port dma = sendDma full port dma := by
    intro dma spared
    have free : full port.allocations = false := by
      apply spared
      unfold sendDma
      split <;> exact Nat.lt_succ_self _
    simp [sendDma, never, free]
  cases call with
  | dma request =>
      simp only [perform] at spared ⊢
      split
      next => rfl
      next fits => exact dma request (by rwa [if_neg fits] at spared)
  | msiWrite physicalAddress data completion => exact dma _ spared
  | interrupt vector action =>
      have free : full port.allocations = false := by
        apply spared
        unfold perform sendInterrupt
        dsimp only
        split <;> exact Nat.lt_succ_self _
      simp [perform, sendInterrupt, never, free]

theorem serve_never {Result : Type} (script : Script Call Bool Result) (port : Port)
    (spared : (serve payloadCapacity full script port).1.Spared full) :
    serve payloadCapacity never script port = serve payloadCapacity full script port := by
  induction script generalizing port with
  | done result => rfl
  | ask call resume inductionHypothesis =>
      have earlier : (perform payloadCapacity full port call).1.Spared full :=
        spared.earlier (serve_called (resume _) _).more
      unfold serve
      rw [perform_never port call earlier]
      exact inductionHypothesis _ _ spared

/-! ## Runs -/

variable {Model : Type} {device : Device Model}

/-- Between two inputs the books are right and what was applied has been answered. -/
structure Port.Balanced (full : Nat → Bool) (port : Port) : Prop where
  books : port.Books full
  answered : gather Observation.isAnswered port.trace = gather Observation.isApplied port.trace

theorem Port.Called.balanced {port after : Port} (called : Called full port after)
    (balanced : port.Balanced full) : after.Balanced full where
  books := called.books balanced.books
  answered := by rw [called.answered, called.applied, balanced.answered]

/-- The model runs between the allocation and the completion of an MMIO request. -/
theorem answer_balanced {port served : Port} {request : MmioRequest} (balanced : port.Balanced full)
    (free : full port.allocations = false)
    (called : Called full (((port.emit (.polled request)).allocate).emit (.applied request)) served)
    (value : Nat) (success : Bool) :
    (port.answer served request value success).Balanced full := by
  have begun : (((port.emit (.polled request)).allocate).emit (.applied request)).Books full := by
    refine balanced.books.allocated (.mmio request) rfl ?_
    simp [Port.emit, allocate, free]
  have books := called.books begun
  have answered := called.answered
  have applied := called.applied
  refine ⟨⟨?_, ?_⟩, ?_⟩
  · simpa [Port.answer, Port.emit] using books.counted
  · intro spared
    simpa [Port.answer, Port.emit] using books.spared spared
  · simpa [Port.answer, Port.emit, allocate, balanced.answered, answered] using applied.symm

theorem handleMmio_balanced {port : Port} (balanced : port.Balanced full) (model : Model)
    (request : MmioRequest) (write : Bool) :
    (handleMmio device payloadCapacity full port model request write).1.Balanced full ∧
      port.allocations <
        (handleMmio device payloadCapacity full port model request write).1.allocations := by
  unfold handleMmio
  split
  next met =>
    refine ⟨⟨balanced.books.allocated (.mmio request) rfl ?_, ?_⟩, Nat.lt_succ_self _⟩
    · simp [Port.emit, allocate, met]
    · simpa [Port.emit, allocate] using balanced.answered
  next free =>
    have spare : full port.allocations = false := by simpa using free
    split
    next =>
      have called : Called full _ (serve payloadCapacity full
          (device.writeMmio model request.offset request.length request.value) _).1 :=
        serve_called _ (((port.emit (.polled request)).allocate).emit (.applied request))
      exact ⟨answer_balanced balanced spare called _ _, Nat.lt_of_succ_le called.more⟩
    next =>
      have called : Called full _ (serve payloadCapacity full
          (device.readMmio model request.offset request.length) _).1 :=
        serve_called _ (((port.emit (.polled request)).allocate).emit (.applied request))
      exact ⟨answer_balanced balanced spare called _ _, Nat.lt_of_succ_le called.more⟩

theorem react_balanced {port after : Port} {model next : Model} {input : Input}
    (reacted : react device payloadCapacity inElen full port model input = some (after, next))
    (balanced : port.Balanced full) :
    after.Balanced full ∧ port.allocations ≤ after.allocations := by
  cases input with
  | mmio request write =>
      obtain ⟨rfl, rfl⟩ := Prod.mk.injEq .. |>.mp (Option.some.inj reacted)
      obtain ⟨still, more⟩ := handleMmio_balanced balanced model request write
      exact ⟨still, Nat.le_of_lt more⟩
  | dmaCompletion completion =>
      simp only [react, handleDmaCompletion] at reacted
      split at reacted
      next => simp at reacted
      next id pending found =>
        split at reacted
        next => simp at reacted
        next ok bytes accepted =>
          obtain ⟨rfl, rfl⟩ := Prod.mk.injEq .. |>.mp (Option.some.inj reacted)
          have called : Called full _ (serve payloadCapacity full
              (device.completed model pending.completion ok bytes) _).1 :=
            serve_called _ { port with pending := port.pending.eraseP fun entry => entry.1 == id }
          have withdrawn : Called full port
              { port with pending := port.pending.eraseP fun entry => entry.1 == id } :=
            ⟨fun books => ⟨books.counted, books.spared⟩, Nat.le_refl _, rfl, rfl, rfl⟩
          exact ⟨(withdrawn.trans called).balanced balanced, called.more⟩
  | other input =>
      obtain ⟨rfl, rfl⟩ := Prod.mk.injEq .. |>.mp (Option.some.inj reacted)
      have called : Called full port (serve payloadCapacity full (device.other model input) port).1 :=
        serve_called _ port
      exact ⟨called.balanced balanced, called.more⟩

theorem handleMmio_never {port : Port} {model : Model} {request : MmioRequest} {write : Bool}
    (spared : (handleMmio device payloadCapacity full port model request write).1.Spared full) :
    handleMmio device payloadCapacity never port model request write =
      handleMmio device payloadCapacity full port model request write := by
  have free : full port.allocations = false := by
    cases met : full port.allocations with
    | false => rfl
    | true =>
        have dropped := spared port.allocations (by simp [handleMmio, met, Port.emit, allocate])
        rw [met] at dropped
        exact dropped
  cases write with
  | true =>
      simp only [handleMmio, free, never, if_true, Bool.false_eq_true, if_false] at spared ⊢
      rw [serve_never _ _ spared]
  | false =>
      simp only [handleMmio, free, never, Bool.false_eq_true, if_false] at spared ⊢
      rw [serve_never _ _ spared]

theorem react_never {port after : Port} {model next : Model} {input : Input}
    (reacted : react device payloadCapacity inElen full port model input = some (after, next))
    (spared : after.Spared full) :
    react device payloadCapacity inElen never port model input = some (after, next) := by
  cases input with
  | mmio request write =>
      obtain ⟨same, rfl⟩ := Prod.mk.injEq .. |>.mp (Option.some.inj reacted)
      rw [← same] at spared ⊢
      exact congrArg some (handleMmio_never spared)
  | dmaCompletion completion =>
      simp only [react, handleDmaCompletion] at reacted ⊢
      split at reacted
      next => simp at reacted
      next id pending found =>
        split at reacted
        next => simp at reacted
        next ok bytes accepted =>
          obtain ⟨same, rfl⟩ := Prod.mk.injEq .. |>.mp (Option.some.inj reacted)
          rw [← same] at spared ⊢
          exact congrArg some (serve_never _ _ spared)
  | other input =>
      obtain ⟨same, rfl⟩ := Prod.mk.injEq .. |>.mp (Option.some.inj reacted)
      rw [← same] at spared ⊢
      exact congrArg some (serve_never _ _ spared)

theorem run_balanced {inputs : List Input} {port after : Port} {model final : Model}
    (ran : run device payloadCapacity inElen full inputs (port, model) = some (after, final))
    (balanced : port.Balanced full) :
    after.Balanced full ∧ port.allocations ≤ after.allocations := by
  induction inputs generalizing port model with
  | nil =>
      obtain ⟨rfl, rfl⟩ := Prod.mk.injEq .. |>.mp (Option.some.inj ran)
      exact ⟨balanced, Nat.le_refl _⟩
  | cons input inputs inductionHypothesis =>
      unfold run at ran
      split at ran
      next => simp at ran
      next next reacted =>
        obtain ⟨still, more⟩ := react_balanced reacted balanced
        obtain ⟨last, later⟩ := inductionHypothesis ran still
        exact ⟨last, Nat.le_trans more later⟩

theorem run_never {inputs : List Input} {port after : Port} {model final : Model}
    (ran : run device payloadCapacity inElen full inputs (port, model) = some (after, final))
    (balanced : port.Balanced full) (spared : after.Spared full) :
    run device payloadCapacity inElen never inputs (port, model) = some (after, final) := by
  induction inputs generalizing port model with
  | nil => exact ran
  | cons input inputs inductionHypothesis =>
      unfold run at ran ⊢
      split at ran
      next => simp at ran
      next next reacted =>
        have still := (react_balanced reacted balanced).1
        have earlier : next.1.Spared full := spared.earlier (run_balanced ran still).2
        rw [react_never reacted earlier]
        exact inductionHypothesis ran still

theorem initial_balanced (full : Nat → Bool) : ({} : Port).Balanced full :=
  ⟨⟨rfl, fun _ => ⟨rfl, rfl, rfl⟩⟩, rfl⟩

/-- A run loses nothing, and is the run with an unbounded queue, exactly when none of its
allocations meets a full ring. -/
theorem host_port_transparent_iff {inputs : List Input} {model final : Model} {port : Port}
    (ran : run device payloadCapacity inElen full inputs ({}, model) = some (port, final)) :
    (Transparent port.trace ∧
      run device payloadCapacity inElen never inputs ({}, model) = some (port, final)) ↔
        port.Spared full := by
  have balanced := (run_balanced ran (initial_balanced full)).1
  constructor
  · rintro ⟨transparent, _⟩ index inside
    have counted := balanced.books.counted
    rw [transparent.applied, transparent.forwarded, transparent.delivered] at counted
    have none : (List.range port.allocations).countP full = 0 := by omega
    have free := List.countP_eq_zero.mp none index (List.mem_range.mpr inside)
    simpa using free
  · intro spared
    obtain ⟨applied, forwarded, delivered⟩ := balanced.books.spared spared
    exact ⟨⟨applied, balanced.answered.trans applied, forwarded, delivered⟩,
      run_never ran (initial_balanced full) spared⟩

/-- A model that answers a register write with a DMA of the value and an interrupt, and
counts the DMAs that failed at once. -/
def Device.sample : Device Nat where
  readMmio model _ _ := .done (model, some model)
  writeMmio model _ length value :=
    .ask (.dma { address := value, length := length, read := true, completion := 1 })
      fun accepted => .ask (.interrupt 0 .pulse) fun _ =>
        .done (if accepted then model else model + 1, true)
  completed model _ _ _ := .done model
  other model _ := .done model

/-- The fourth allocation would meet a full ring, but there are three. -/
theorem spared_run_transparent :
    ∃ port final, run Device.sample 64 128 (fun index => index == 3)
        [.mmio ⟨1, 0, 8, 0x8000⟩ true] ({}, 0) = some (port, final) ∧
      Transparent port.trace := by
  obtain ⟨result, ran, three⟩ := Option.map_eq_some_iff.mp
    (show (run Device.sample 64 128 (fun index => index == 3)
      [.mmio ⟨1, 0, 8, 0x8000⟩ true] ({}, 0)).map (fun result => result.1.allocations) =
        some 3 by decide +kernel)
  refine ⟨result.1, result.2, ran, ((host_port_transparent_iff ran).mpr ?_).1⟩
  intro index inside
  simp only [beq_eq_false_iff_ne]
  omega

/-- The ring is full at the one request: it is neither applied nor answered. -/
theorem full_ring_drops_request :
    ¬ ∀ (full : Nat → Bool) (inputs : List Input) (port : Port) (final : Nat),
      run Device.sample 64 128 full inputs ({}, 0) = some (port, final) →
        Transparent port.trace := by
  intro transparent
  obtain ⟨result, ran, trace⟩ := Option.map_eq_some_iff.mp
    (show (run Device.sample 64 128 (fun _ => true) [.mmio ⟨1, 0, 8, 0x8000⟩ true] ({}, 0)).map
      (fun result => result.1.trace) = some [.polled ⟨1, 0, 8, 0x8000⟩] by decide +kernel)
  have applied := (transparent _ _ result.1 result.2 ran).applied
  rw [trace] at applied
  simp at applied

end Udma.Host
