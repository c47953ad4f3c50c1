import Udma.Collections.Withdraw
import Udma.Transition.Run

/-!
# Timed register reads of the QEMU host

In timing mode a read suspends its vCPU until the device has answered; when the
vCPU is resumed it retries the instruction, and the retry takes the value.  One
record of `UbSimUbHostState` serves all vCPUs: who asked, for which register, and
whether the answer is still under way.  Writes are posted.

The device is outside: it answers what it was sent, each request once.  The
functions that spin on a full ring are taken at the moment they return.
-/

namespace Udma.Qemu

open Udma.Collections Udma.Transition

/-- The flags of `CPUState` that suspension sets. -/
structure Cpu where
  deviceWait : Bool := false
  halted : Bool := false
  deriving DecidableEq, Repr

/-- A message to the device. -/
inductive Request where
  | mmioRead (id offset size : Nat)
  | mmioWrite (id offset value size : Nat)
  deriving DecidableEq, Repr

def Request.id : Request → Nat
  | .mmioRead id _ _ => id
  | .mmioWrite id _ _ _ => id

structure Completion where
  id : Nat
  value : Nat
  status : Nat
  deriving DecidableEq, Repr

/-- History: what was asked, posted, produced by the device and returned to a vCPU. -/
inductive Observation where
  | requested (cpu id : Nat)
  | posted (cpu id : Nat)
  | answered (id value : Nat)
  | returned (cpu value : Nat)
  deriving DecidableEq, Repr

structure State where
  nextRequest : Nat := 0
  expectedRequest : Nat := 0
  completionValue : Nat := 0
  completionStatus : Nat := 0
  completionSeen : Bool := false
  requestCpu : Option Nat := none
  requestOffset : Nat := 0
  requestSize : Nat := 0
  requestProcessing : Bool := false
  requestPending : Bool := false
  cpus : Nat → Cpu := fun _ => {}
  /-- Requests that the device has not answered, oldest first. -/
  h2d : List Request := []
  d2h : List Completion := []
  /-- History variable: the vCPUs that posted a write since the last timed read. -/
  writers : List Nat := []
  trace : List Observation := []

def State.initial : State := {}

namespace State

def setCpu (state : State) (cpu : Nat) (flags : Cpu) : State :=
  { state with cpus := fun other => if other = cpu then flags else state.cpus other }

def emit (state : State) (observation : Observation) : State :=
  { state with trace := state.trace ++ [observation] }

/-- Numbers of the requests whose completion has not been consumed. -/
def outstanding (state : State) : List Nat :=
  state.h2d.map Request.id ++ state.d2h.map Completion.id

/-- The record holds an answer that the access would take. -/
def completed (state : State) (offset size : Nat) : Bool :=
  state.requestPending && !state.requestProcessing &&
    (state.requestOffset == offset && state.requestSize == size)

end State

def ubsimTcgSuspendCpu (state : State) (cpu : Nat) : State :=
  state.setCpu cpu { deviceWait := true, halted := true }

def ubsimTcgResumeCpu (state : State) (cpu : Nat) : State :=
  state.setCpu cpu { deviceWait := false, halted := false }

/-- The end of `ubsim_mmio_timing_read`: a request is sent. -/
def startTimedRead (state : State) (cpu offset size : Nat) : State :=
  let id := state.nextRequest + 1
  let sent := { state with
    nextRequest := id
    expectedRequest := id
    completionSeen := false
    requestCpu := some cpu
    requestOffset := offset
    requestSize := size
    requestProcessing := true
    requestPending := true
    h2d := state.h2d ++ [Request.mmioRead id offset size]
    writers := [] }
  ubsimTcgSuspendCpu (sent.emit (.requested cpu id)) cpu

def ubsimMmioTimingRead (state : State) (cpu offset size : Nat) : State :=
  if state.requestPending then
    if state.requestProcessing then ubsimTcgSuspendCpu state cpu
    else if state.requestOffset = offset ∧ state.requestSize = size then
      { state with requestPending := false }.emit (.returned cpu state.completionValue)
    else startTimedRead { state with requestPending := false } cpu offset size
  else startTimedRead state cpu offset size

def ubsimMmioTimingWrite (state : State) (cpu offset value size : Nat) : State :=
  let id := state.nextRequest + 1
  { state with
    nextRequest := id
    h2d := state.h2d ++ [Request.mmioWrite id offset value size]
    writers := cpu :: state.writers }.emit (.posted cpu id)

/-- The MMIO branch of `ubsim_service_device`, on one message. -/
def ubsimServiceDevice (state : State) (completion : Completion) : State :=
  if completion.id = state.expectedRequest then
    let seen := { state with
      completionValue := completion.value
      completionStatus := completion.status
      completionSeen := true }
    match state.requestProcessing, state.requestCpu with
    | true, some cpu => ubsimTcgResumeCpu { seen with requestProcessing := false } cpu
    | _, _ => seen
  else state

/-! ## The step function -/

inductive Event where
  /-- A vCPU executes a load, for the first time or again. -/
  | read (cpu offset size : Nat)
  | write (cpu offset value size : Nat)
  /-- The device answers the request at `index`. -/
  | answer (index value status : Nat)
  /-- The poll timer takes the next message. -/
  | service
  deriving DecidableEq, Repr

/-- A vCPU that waits for the device executes nothing. -/
def step (state : State) : Event → Option State
  | .read cpu offset size =>
      if (state.cpus cpu).deviceWait then none
      else some (ubsimMmioTimingRead state cpu offset size)
  | .write cpu offset value size =>
      if (state.cpus cpu).deviceWait then none
      else some (ubsimMmioTimingWrite state cpu offset value size)
  | .answer index value status =>
      match state.h2d[index]? with
      | none => none
      | some request =>
          some ({ state with
            h2d := state.h2d.eraseIdx index
            d2h := state.d2h ++ [Completion.mk request.id value status] }.emit
              (.answered request.id value))
  | .service =>
      match state.d2h with
      | [] => none
      | completion :: rest => some (ubsimServiceDevice { state with d2h := rest } completion)

/-- What a timed read can do. -/
inductive ReadOutcome (state : State) (cpu offset size : Nat) : State → Prop where
  | suspended (pending : state.requestPending = true)
      (processing : state.requestProcessing = true) :
      ReadOutcome state cpu offset size (ubsimTcgSuspendCpu state cpu)
  | returned (found : state.completed offset size = true) :
      ReadOutcome state cpu offset size
        ({ state with requestPending := false }.emit (.returned cpu state.completionValue))
  | started (idle : state.requestPending = true → state.requestProcessing = false) (pending : Bool) :
      ReadOutcome state cpu offset size
        (startTimedRead { state with requestPending := pending } cpu offset size)

theorem ubsimMmioTimingRead_outcome (state : State) (cpu offset size : Nat) :
    ReadOutcome state cpu offset size (ubsimMmioTimingRead state cpu offset size) := by
  unfold ubsimMmioTimingRead
  split
  next pending =>
    split
    next processing => exact .suspended pending processing
    next settled =>
      have idle : state.requestProcessing = false := by simpa using settled
      split
      next same => exact .returned (by simp [State.completed, pending, idle, same])
      next other => exact .started (fun _ => idle) false
  next free =>
    have unused : state.requestPending = false := by simpa using free
    have result : ReadOutcome state cpu offset size
        (startTimedRead { state with requestPending := false } cpu offset size) :=
      .started (by simp [unused]) false
    rwa [← unused] at result

inductive ServiceOutcome (state : State) (completion : Completion) : State → Prop where
  | ignored (other : completion.id ≠ state.expectedRequest) :
      ServiceOutcome state completion state
  | stored (mine : completion.id = state.expectedRequest)
      (unclaimed : state.requestProcessing = true → state.requestCpu = none) :
      ServiceOutcome state completion { state with
        completionValue := completion.value
        completionStatus := completion.status
        completionSeen := true }
  | resumed (cpu : Nat) (mine : completion.id = state.expectedRequest)
      (processing : state.requestProcessing = true) (asked : state.requestCpu = some cpu) :
      ServiceOutcome state completion (ubsimTcgResumeCpu { state with
        completionValue := completion.value
        completionStatus := completion.status
        completionSeen := true
        requestProcessing := false } cpu)

theorem ubsimServiceDevice_outcome (state : State) (completion : Completion) :
    ServiceOutcome state completion (ubsimServiceDevice state completion) := by
  unfold ubsimServiceDevice
  split
  next mine =>
    split
    next cpu processing asked => exact .resumed cpu mine processing asked
    next unclaimed =>
      refine .stored mine fun processing => ?_
      cases asked : state.requestCpu with
      | none => rfl
      | some cpu => exact absurd asked (unclaimed cpu processing)
  next other => exact .ignored other

/-- What a step can do. -/
inductive Stepped (state : State) : Event → State → Prop where
  | read (cpu offset size : Nat) (after : State)
      (outcome : ReadOutcome state cpu offset size after) :
      Stepped state (.read cpu offset size) after
  | write (cpu offset value size : Nat) :
      Stepped state (.write cpu offset value size)
        (ubsimMmioTimingWrite state cpu offset value size)
  | answer (index value status : Nat) (request : Request) (rest : List Request)
      (sent : state.h2d.Perm (request :: rest)) :
      Stepped state (.answer index value status)
        ({ state with
          h2d := rest
          d2h := state.d2h ++ [Completion.mk request.id value status] }.emit
            (.answered request.id value))
  | service (completion : Completion) (rest : List Completion)
      (queue : state.d2h = completion :: rest) (after : State)
      (outcome : ServiceOutcome { state with d2h := rest } completion after) :
      Stepped state .service after

theorem step_stepped {state after : State} {event : Event}
    (taken : step state event = some after) : Stepped state event after := by
  cases event with
  | read cpu offset size =>
      simp only [step] at taken
      split at taken
      next => simp at taken
      next =>
        obtain rfl := Option.some.inj taken
        exact .read cpu offset size _ (ubsimMmioTimingRead_outcome state cpu offset size)
  | write cpu offset value size =>
      simp only [step] at taken
      split at taken
      next => simp at taken
      next =>
        obtain rfl := Option.some.inj taken
        exact .write cpu offset value size
  | answer index value status =>
      simp only [step] at taken
      split at taken
      next => simp at taken
      next request found =>
        obtain rfl := Option.some.inj taken
        exact .answer index value status _ _ (perm_cons_eraseIdx found)
  | service =>
      simp only [step] at taken
      split at taken
      next => simp at taken
      next completion rest queue =>
        obtain rfl := Option.some.inj taken
        exact .service completion rest queue _ (ubsimServiceDevice_outcome _ completion)

/-! ## Who is resumed -/

namespace State

variable (state : State) (cpu other : Nat) (flags : Cpu)

@[simp] theorem setCpu_self : (state.setCpu cpu flags).cpus cpu = flags := by
  simp [setCpu]

/-- The vCPU asked for the outstanding read, and its completion is still to be consumed. -/
structure Awaited : Prop where
  pending : state.requestPending = true
  processing : state.requestProcessing = true
  asked : state.requestCpu = some cpu
  unconsumed : state.expectedRequest ∈ state.outstanding

/-- The record of the outstanding read, and nobody waits for anything else. -/
structure Kept : Prop where
  record : state.requestProcessing = true →
    state.requestPending = true ∧ state.expectedRequest ∈ state.outstanding ∧
      ∃ cpu, state.requestCpu = some cpu
  waiting : ∀ cpu, (state.cpus cpu).deviceWait = true →
    state.requestProcessing = true ∧ state.requestCpu = some cpu

end State

/-- No vCPU begins a timed read while a read is outstanding. -/
def Exclusive (before : State) : Event → State → Prop
  | .read _ _ _, _ => ¬ (before.requestPending = true ∧ before.requestProcessing = true)
  | _, _ => True

instance (before : State) (event : Event) (after : State) :
    Decidable (Exclusive before event after) := by
  unfold Exclusive
  rcases event with _ | _ <;> infer_instance

namespace State.Kept

variable {state : State}

theorem initial : State.initial.Kept :=
  ⟨by simp [State.initial], by simp [State.initial]⟩

/-- Nobody waits when no read is outstanding. -/
theorem none_waits (kept : state.Kept) (idle : state.requestProcessing = false) (cpu : Nat) :
    (state.cpus cpu).deviceWait = false := by
  cases waiting : (state.cpus cpu).deviceWait with
  | false => rfl
  | true =>
      have := (kept.waiting cpu waiting).1
      simp [idle] at this

/-- More requests, or a completion on its way, change nothing for the record. -/
theorem regrow {next : State} (kept : state.Kept)
    (more : state.outstanding ⊆ next.outstanding) (cpus : next.cpus = state.cpus)
    (expected : next.expectedRequest = state.expectedRequest)
    (asked : next.requestCpu = state.requestCpu)
    (processing : next.requestProcessing = state.requestProcessing)
    (pending : next.requestPending = state.requestPending) : next.Kept := by
  refine ⟨?_, ?_⟩
  · intro busy
    obtain ⟨held, unconsumed, owner⟩ := kept.record (processing ▸ busy)
    exact ⟨pending ▸ held, expected ▸ more unconsumed, asked ▸ owner⟩
  · intro cpu waiting
    rw [processing, asked]
    exact kept.waiting cpu (cpus ▸ waiting)

theorem start (kept : state.Kept) (idle : state.requestProcessing = false) (pending : Bool)
    (cpu offset size : Nat) :
    (startTimedRead { state with requestPending := pending } cpu offset size).Kept := by
  refine ⟨?_, ?_⟩
  · intro _
    refine ⟨rfl, ?_, cpu, rfl⟩
    simp [startTimedRead, outstanding, ubsimTcgSuspendCpu, setCpu, emit, Request.id]
  · intro other waiting
    by_cases same : other = cpu
    · subst same
      exact ⟨rfl, rfl⟩
    · have before : (state.cpus other).deviceWait = true := by
        simpa [startTimedRead, ubsimTcgSuspendCpu, setCpu, emit, same] using waiting
      simp [kept.none_waits idle other] at before

theorem read (kept : state.Kept) {cpu offset size : Nat} {after : State}
    (free : ¬ (state.requestPending = true ∧ state.requestProcessing = true))
    (outcome : ReadOutcome state cpu offset size after) : after.Kept := by
  have idle : state.requestProcessing = false := by
    cases processing : state.requestProcessing with
    | false => rfl
    | true => exact absurd ⟨(kept.record processing).1, processing⟩ free
  cases outcome with
  | suspended pending processing => exact absurd ⟨pending, processing⟩ free
  | returned found =>
      refine ⟨?_, kept.waiting⟩
      intro busy
      exact absurd busy (by simp [emit, idle])
  | started _ pending => exact kept.start idle pending cpu offset size

theorem service {completion : Completion} {rest : List Completion} (kept : state.Kept)
    (queue : state.d2h = completion :: rest) {after : State}
    (outcome : ServiceOutcome { state with d2h := rest } completion after) : after.Kept := by
  cases outcome with
  | ignored other =>
      refine ⟨?_, kept.waiting⟩
      intro busy
      obtain ⟨pending, unconsumed, owner⟩ := kept.record busy
      refine ⟨pending, ?_, owner⟩
      have different : state.expectedRequest ≠ completion.id := fun same => other same.symm
      simpa [outstanding, queue, different] using unconsumed
  | stored mine unclaimed =>
      have idle : state.requestProcessing = false := by
        cases processing : state.requestProcessing with
        | false => rfl
        | true =>
            obtain ⟨_, _, cpu, asked⟩ := kept.record processing
            have missing : state.requestCpu = none := unclaimed processing
            simp [asked] at missing
      refine ⟨?_, kept.waiting⟩
      intro busy
      exact absurd busy (by simp [idle])
  | resumed cpu mine processing asked =>
      refine ⟨by simp [ubsimTcgResumeCpu, setCpu], ?_⟩
      intro other waiting
      by_cases same : other = cpu
      · subst same
        simp [ubsimTcgResumeCpu, setCpu] at waiting
      · have before : (state.cpus other).deviceWait = true := by
          simpa [ubsimTcgResumeCpu, setCpu, same] using waiting
        have owner := (kept.waiting other before).2
        have same' : some cpu = some other := asked.symm.trans owner
        exact absurd (Option.some.inj same').symm same

theorem step {event : Event} {after : State} (kept : state.Kept)
    (stepped : Stepped state event after) (allowed : Exclusive state event after) :
    after.Kept := by
  cases stepped with
  | read cpu offset size after outcome => exact kept.read allowed outcome
  | write cpu offset value size =>
      refine kept.regrow ?_ rfl rfl rfl rfl rfl
      intro id membership
      have := List.mem_append.mp membership
      simp only [ubsimMmioTimingWrite, outstanding, emit, List.map_append, List.mem_append]
      tauto
  | answer index value status request rest sent =>
      refine kept.regrow ?_ rfl rfl rfl rfl rfl
      intro id membership
      have either := List.mem_append.mp membership
      rw [(sent.map Request.id).mem_iff] at either
      simp only [outstanding, emit, List.map_append, List.mem_append, List.map_cons,
        List.map_nil, List.mem_cons, List.not_mem_nil, or_false] at either ⊢
      tauto
  | service completion rest queue after outcome => exact kept.service queue outcome

end State.Kept

/-- In every run without overlapping reads, a suspended vCPU is the one the record names, and
consuming the completion resumes it. -/
theorem suspended_cpu_awaited {state : State}
    (reached : Reaches step Exclusive State.initial state) {cpu : Nat}
    (waiting : (state.cpus cpu).deviceWait = true) :
    state.Awaited cpu ∧ ∀ completion : Completion, completion.id = state.expectedRequest →
      ((ubsimServiceDevice state completion).cpus cpu).deviceWait = false := by
  have kept := reached.invariant State.Kept.initial
    (fun _ _ _ kept taken allowed => kept.step (step_stepped taken) allowed)
  obtain ⟨processing, asked⟩ := kept.waiting cpu waiting
  obtain ⟨pending, unconsumed, _⟩ := kept.record processing
  refine ⟨⟨pending, processing, asked, unconsumed⟩, ?_⟩
  intro completion mine
  simp [ubsimServiceDevice, mine, processing, asked, ubsimTcgResumeCpu]

/-- Two vCPUs read one after the other; the second waits for its answer. -/
theorem second_cpu_awaited :
    ∃ state, Reaches step Exclusive State.initial state ∧
      (state.cpus 1).deviceWait = true ∧ state.Awaited 1 := by
  let events : List Event := [.read 0 0x10 4, .answer 0 7 0, .service, .read 0 0x10 4,
    .write 1 0x20 5 4, .read 1 0x14 4]
  obtain ⟨state, reached, waiting⟩ := exists_of_execute
    (show (execute step Exclusive events State.initial).map
      (fun state => (state.cpus 1).deviceWait) = some true by decide +kernel)
  exact ⟨state, reached, waiting, (suspended_cpu_awaited reached waiting).1⟩

/-- A vCPU that reads during the read of another is suspended, and no completion is its own. -/
theorem overlapping_reader_forgotten :
    ¬ ∀ (state : State) (cpu : Nat), Reaches step always State.initial state →
      (state.cpus cpu).deviceWait = true → state.Awaited cpu := by
  intro awaited
  obtain ⟨state, reached, seen⟩ := exists_of_execute
    (show (execute step always [.read 0 0x10 4, .read 1 0x14 4] State.initial).map
      (fun state => ((state.cpus 1).deviceWait, state.requestCpu)) = some (true, some 0) by
        decide +kernel)
  obtain ⟨waiting, asked⟩ := Prod.mk.injEq .. |>.mp seen
  have owner := (awaited state 1 reached waiting).asked
  simp [asked] at owner

end Udma.Qemu
