import Udma.Cq.Conservation
import Udma.Cq.Safety

/-!
# The callbacks of `WriteCqe`

A caller of `WriteCqe` passes a callback.  It is told the success of its CQE only
after the CQE was written, and every callback is called once: the publication is
in a queue that the pump looks at, in the hands of the host, or on the stack.

The exception is a JFC that does not exist.  Serial mode reports the failure, but
in pipelined mode the publication stays in the queue, and is published if a JFC of
the same number is created later.
-/

namespace Udma.Cq

open Udma.Abi Udma.Arithmetic Udma.Collections Udma.Transition

variable {config : Config} {state changed before after : State} {event : Event}

/-! ## What callers are told -/

/-- The caller of `call` has been told, or is about to be told, that its CQE was written. -/
def State.Won (state : State) (call : Nat) : Prop :=
  .complete call true ∈ state.stack ∨ .completed call true ∈ state.trace

def Task.wins : Task → Bool
  | .complete _ true => true
  | _ => false

def Observation.tells : Observation → Bool
  | .called _ _ | .completed _ true => true
  | _ => false

def Observation.calling : Observation → Option (Nat × Publication)
  | .called id publication => some (id, publication)
  | _ => none

/-- The calls of `WriteCqe`, in order. -/
def calledOf (trace : List Observation) : List (Nat × Publication) :=
  trace.filterMap Observation.calling

/-- A step without a call of `WriteCqe`; nobody but the caller of `winner` learns of a
success. -/
structure Said (winner : Option Nat) (state after : State) : Prop where
  won : ∀ call, after.Won call → state.Won call ∨ winner = some call
  called : calledOf after.trace = calledOf state.trace
  calls : after.calls = state.calls

namespace Said

variable {winner : Option Nat}

theorem refl (winner : Option Nat) (state : State) : Said winner state state :=
  ⟨fun _ won => .inl won, rfl, rfl⟩

theorem push_of (said : Said winner state changed) {tasks : List Task}
    (own : ∀ call, .complete call true ∈ tasks → winner = some call) :
    Said winner state (changed.push tasks) :=
  { said with
    won := by
      intro call won
      rcases won with held | told
      · rcases List.mem_append.mp held with new | old
        · exact .inr (own call new)
        · exact said.won call (.inl old)
      · exact said.won call (.inr told) }

theorem then_push (said : Said winner state changed) {tasks : List Task}
    (quiet : tasks.all (fun task => !task.wins) = true) :
    Said winner state (changed.push tasks) := by
  refine said.push_of ?_
  intro call held
  have loses := List.all_eq_true.mp quiet _ held
  simp [Task.wins] at loses

theorem then_emit (said : Said winner state changed) {observations : List Observation}
    (quiet : observations.all (fun observation => !observation.tells) = true) :
    Said winner state (changed.emit observations) :=
  { said with
    won := by
      intro call won
      rcases won with held | told
      · exact said.won call (.inl held)
      · rcases List.mem_append.mp told with old | new
        · exact said.won call (.inr old)
        · have silent := List.all_eq_true.mp quiet _ new
          simp [Observation.tells] at silent
    called := by
      have none : calledOf observations = [] := by
        refine List.filterMap_eq_nil_iff.mpr fun observation membership => ?_
        have silent := List.all_eq_true.mp quiet _ membership
        cases observation <;> first | rfl | simp [Observation.tells] at silent
      rw [State.emit_trace, calledOf, List.filterMap_append, ← calledOf, ← calledOf, none,
        List.append_nil, said.called] }

theorem then_call (said : Said winner state changed) (callback : Callback) :
    Said winner state (changed.call callback) :=
  { said.then_push (show [Task.external].all (fun task => !task.wins) = true from rfl) with }

theorem then_writeBack (said : Said winner state changed) (command : Command) (status : Nat) :
    Said winner state (finishUbaseDescriptor changed command status) :=
  Said.then_call (said.then_emit rfl) _

end Said

/-! ## Publications -/

theorem publish_said (config : Config) (state : State) (ticket id : Nat)
    (publication : Publication) (consumer : Option Nat) :
    Said none state (publish config state ticket id publication consumer) := by
  have same := Said.refl none state
  unfold publish
  split
  next =>
    split
    next => exact same.then_push rfl
    next =>
      refine Said.then_call (Said.then_emit ?_ rfl) _
      unfold reserveCqe
      split
      next => exact { same with }
      next => exact { same with }
  next => exact same.then_push rfl

theorem writeCqeNow_said (config : Config) (state : State) (ticket id : Nat)
    (publication : Publication) :
    Said none state (writeCqeNow config state ticket id publication) := by
  unfold writeCqeNow
  split
  next => exact (Said.refl none state).then_push rfl
  next =>
    split
    next => exact publish_said config state ticket id publication _
    next => exact (Said.refl none state).then_call _

theorem moderate_said {call : Nat} (said : Said (some call) state changed) (ticket id : Nat)
    (jfc : Jfc) : Said (some call) state (moderate changed ticket id call jfc) := by
  unfold moderate
  split
  next =>
    refine Said.push_of ?_ ?_
    · exact { said with }
    · intro other held
      simpa [finish, eq_comm] using held
  next =>
    refine Said.push_of (Said.then_emit ?_ rfl) ?_
    · exact { said with }
    · intro other held
      simpa [eq_comm] using held

theorem cqeWritten_said (config : Config) (state : State) (ticket id : Nat)
    (publication : Publication) {ok : Bool} {winner : Option Nat}
    (own : ok = true → winner = some publication.call) :
    Said winner state (cqeWritten config state ticket id publication ok) := by
  have same := Said.refl winner state
  unfold cqeWritten
  split
  next => exact same.then_push rfl
  next jfc _ =>
    split
    next =>
      split
      next => exact same.then_push rfl
      next => exact same.then_push rfl
      next left _ =>
        split
        next landed =>
          obtain rfl := own landed
          refine moderate_said ?_ ticket id _
          exact { same with }
        next =>
          refine Said.then_push ?_ rfl
          exact { same with }
    next =>
      split
      next landed =>
        obtain rfl := own landed
        exact moderate_said same ticket id _
      next =>
        refine Said.then_push ?_ rfl
        exact { same with }

theorem admitJfcPublications_said (config : Config) (state : State) (id : Nat) :
    Said none state (admitJfcPublications config state id) := by
  have same := Said.refl none state
  unfold admitJfcPublications
  split
  next => exact same
  next queue _ =>
    split
    next => exact same.then_push rfl
    next publication later _ =>
      split
      next =>
        have granted : Said none state (grant config state id queue publication later) := by
          unfold grant
          refine Said.then_push (Said.then_emit ?_ rfl) ?_
          · exact { same with }
          · split <;> rfl
        have written := writeCqeNow_said config (grant config state id queue publication later)
          state.tickets id publication
        exact ⟨fun call won => (written.won call won).elim (granted.won call) .inr,
          written.called.trans granted.called, written.calls.trans granted.calls⟩
      next => exact same.then_push rfl

/-! ## Events and commands -/

theorem emitCompletionEvent_said (config : Config) (state : State) (ticket id : Nat) :
    Said none state (emitCompletionEvent config state ticket id) := by
  have same := Said.refl none state
  unfold emitCompletionEvent
  split
  next => exact same.then_push rfl
  next =>
    simp only
    split
    next =>
      refine Said.then_push ?_ rfl
      split
      next => exact { same with }
      next => exact same
    next =>
      refine Said.then_push (Said.then_emit ?_ rfl) rfl
      split
      next => exact { same with }
      next => exact { same with }

theorem dispatchCompletionEvents_said (state : State) :
    Said none state (dispatchCompletionEvents state) := by
  have same := Said.refl none state
  have leaves : Said none state (leaveCompletionEvents state) := by
    refine Said.then_push ?_ rfl
    exact { same with }
  unfold dispatchCompletionEvents
  split
  next => exact leaves
  next =>
    split
    next => exact leaves
    next =>
      simp only
      split
      next =>
        refine Said.then_push ?_ rfl
        exact { same with }
      next =>
        refine Said.then_call (Said.then_emit ?_ rfl) _
        exact { same.then_push (show [Task.dispatchCompletionEvents].all
          (fun task => !task.wins) = true from rfl) with }

theorem ceqeWritten_said (state : State) (ticket ceqId : Nat) (ok : Bool) :
    Said none state (ceqeWritten state ticket ceqId ok) := by
  have same := Said.refl none state
  unfold ceqeWritten
  simp only
  split
  next =>
    refine Said.then_emit ?_ rfl
    exact { same with }
  next =>
    split
    next =>
      refine Said.then_call ?_ _
      exact { same with }
    next =>
      refine Said.then_push ?_ rfl
      exact { same with }

theorem interruptRaised_said (state : State) (ticket : Nat) :
    Said none state (interruptRaised state ticket) := by
  refine Said.then_push ?_ rfl
  exact { Said.refl none state with }

theorem Issued.said (issued : Issued state after) : Said none state after := by
  cases issued with
  | read callback => exact (Said.refl none state).then_call callback
  | writeBack command status => exact (Said.refl none state).then_writeBack command status

theorem Applied.said (applied : Applied state after) : Said none state after := by
  have same := Said.refl none state
  cases applied with
  | issued issued => exact issued.said
  | installedCeq command =>
      refine Said.then_writeBack ?_ command 0
      exact { same with }
  | installedJfc command =>
      refine Said.then_writeBack ?_ command 0
      exact { same with }
  | modified command =>
      refine Said.then_writeBack ?_ command 0
      exact { same with }

theorem queryRead_said (state : State) (command : Command) (ok : Bool) (bytes : Bytes) :
    Said none state (queryRead state command ok bytes) := by
  have same := Said.refl none state
  rcases queryRead_cases state command ok bytes with shape | ⟨jfc, _, _, _, shape⟩
  · rw [shape]
    exact same.then_writeBack command 5
  · rw [shape]
    refine Said.then_call ?_ _
    exact { same with }

theorem Handled.said {command : Command} (handled : Handled config state command after) :
    Said none state after := by
  have same := Said.refl none state
  cases handled with
  | issued issued => exact issued.said
  | creating | creatingCeq => exact same.then_call _
  | deferredCeq | deferredJfc => exact { same with }
  | erasedCeq | erasedJfc =>
      refine Said.then_writeBack ?_ command 0
      exact { same with }

theorem maybeCompleteJfcDestroy_said (config : Config) (state : State) :
    Said none state (maybeCompleteJfcDestroy config state) := by
  unfold maybeCompleteJfcDestroy
  split
  next => exact Said.refl none state
  next command _ =>
    split
    next => exact Said.refl none state
    next =>
      have handled := (handleUbaseMailbox_handled config
        { state with pendingJfcDestroy := none, drainingJfcId := none } command).said
      exact { handled with }

theorem maybeCompleteEqDestroy_said (config : Config) (state : State) :
    Said none state (maybeCompleteEqDestroy config state) := by
  unfold maybeCompleteEqDestroy
  split
  next => exact Said.refl none state
  next command _ =>
    split
    next => exact Said.refl none state
    next =>
      have handled := (handleUbaseMailbox_handled config
        { state with pendingEqDestroy := none, drainingCeqId := none } command).said
      exact { handled with }

/-! ## Steps -/

/-- Activations other than the callback itself. -/
theorem runTask_said {task : Task} (other : ∀ call ok, task ≠ .complete call ok)
    (ran : runTask config state task = some after) : Said none state after := by
  have same := Said.refl none state
  cases task with
  | external =>
      obtain rfl := Option.some.inj ran
      exact same
  | pumpCompletionWork =>
      obtain rfl := Option.some.inj ran
      unfold pumpCompletionWork
      split
      next => exact { same with }
      next =>
        refine Said.then_push ?_ rfl
        exact { same with }
  | pumpPass => simp [runTask] at ran
  | pumpTimers expired =>
      obtain rfl := Option.some.inj ran
      unfold pumpTimers pumpTimer
      split
      next => exact same.then_push rfl
      next =>
        split
        next => exact same.then_push rfl
        next =>
          split
          next => exact same.then_push rfl
          next =>
            refine Said.then_push (Said.then_emit ?_ rfl) rfl
            exact { same with }
  | pumpQueues ids =>
      obtain rfl := Option.some.inj ran
      unfold pumpQueues
      split
      next =>
        split
        next => exact same.then_push rfl
        next => exact { same with }
      next => exact same.then_push rfl
  | processJfcPublications id =>
      obtain rfl := Option.some.inj ran
      unfold processJfcPublications
      split
      next => exact same
      next =>
        split
        next => exact same
        next =>
          refine Said.then_push ?_ rfl
          exact { same with }
  | admitJfcPublications id =>
      obtain rfl := Option.some.inj ran
      exact admitJfcPublications_said config state id
  | leaveJfcPublications id =>
      obtain rfl := Option.some.inj ran
      unfold leaveJfcPublications
      split
      next => exact same
      next =>
        split
        next =>
          refine Said.then_push ?_ rfl
          exact { same with }
        next => exact { same with }
  | releasePublication id =>
      obtain rfl := Option.some.inj ran
      unfold releasePublication
      split
      next => exact same.then_push rfl
      next =>
        refine Said.then_push ?_ rfl
        exact { same with }
  | complete call ok => exact absurd rfl (other call ok)
  | emitCompletionEvent ticket id =>
      obtain rfl := Option.some.inj ran
      exact emitCompletionEvent_said config state ticket id
  | releaseCompletionEventSlot ticket =>
      obtain rfl := Option.some.inj ran
      refine Said.then_push (Said.then_emit ?_ rfl) rfl
      exact { same with }
  | processCompletionEvent =>
      obtain rfl := Option.some.inj ran
      unfold processCompletionEvent
      split
      next => exact same
      next =>
        refine Said.then_push ?_ rfl
        exact { same with }
  | dispatchCompletionEvents =>
      obtain rfl := Option.some.inj ran
      exact dispatchCompletionEvents_said state
  | maybeCompleteJfcDestroy =>
      obtain rfl := Option.some.inj ran
      exact maybeCompleteJfcDestroy_said config state
  | maybeCompleteEqDestroy =>
      obtain rfl := Option.some.inj ran
      exact maybeCompleteEqDestroy_said config state

/-- The publication whose CQE a callback reports as written. -/
def Callback.written (ok : Bool) : Callback → Option Nat
  | .cqeWritten _ _ publication => if ok then some publication.call else none
  | _ => none

theorem runCallback_said (config : Config) (state : State) (ok : Bool) (bytes : Bytes)
    (callback : Callback) :
    Said (callback.written ok) state (runCallback config state ok bytes callback) := by
  cases callback with
  | consumerRead ticket id publication => exact publish_said config state ticket id publication _
  | cqeWritten ticket id publication =>
      refine cqeWritten_said config state ticket id publication ?_
      rintro rfl
      rfl
  | ceqeWritten ticket ceqId vector => exact ceqeWritten_said state ticket ceqId ok
  | interruptRaised ticket => exact interruptRaised_said state ticket
  | contextRead command => exact (contextRead_applied state command ok bytes).said
  | queryRead command => exact queryRead_said state command ok bytes
  | queryWritten command => exact (queryWritten_applied state command ok).said
  | descriptorWritten => exact { Said.refl none state with }

/-- The publication whose CQE an event reports as written. -/
def State.written (state : State) : Event → Option Nat
  | .fire index ok _ => (state.outstanding[index]?).bind (Callback.written ok)
  | _ => none

/-- What a party outside does, other than calling `WriteCqe`. -/
theorem environment_said (other : ∀ id cqe, event ≠ .writeCqe id cqe)
    (acted : environment config before event = some after) :
    Said (before.written event) before after := by
  have same := fun winner => Said.refl winner before
  cases event with
  | run => simp [environment] at acted
  | beginPass expired => simp [environment] at acted
  | fire index ok bytes =>
      simp only [environment] at acted
      cases found : before.outstanding[index]? with
      | none => simp [found] at acted
      | some callback =>
          simp only [found, Option.some.injEq] at acted
          subst acted
          have written : before.written (.fire index ok bytes) = callback.written ok := by
            simp [State.written, found]
          rw [written]
          exact { runCallback_said config
            (before.withOutstanding (before.outstanding.eraseIdx index)) ok bytes callback with }
  | writeCqe id cqe => exact absurd rfl (other id cqe)
  | mailbox command =>
      simp only [environment] at acted
      split at acted
      next => simp at acted
      next =>
        obtain rfl := Option.some.inj acted
        exact { (handleUbaseMailbox_handled config { before with ubaseBusy := true }
          command).said with }
  | ceqDoorbell value =>
      obtain rfl := Option.some.inj acted
      unfold ceqDoorbell
      simp only
      split
      next => exact same _
      next =>
        split
        next => exact same _
        next =>
          refine Said.then_push ?_ rfl
          exact { same _ with }
  | jfcDoorbell value =>
      obtain rfl := Option.some.inj acted
      unfold jfcDoorbell
      simp only
      split
      next =>
        refine Said.then_emit ?_ rfl
        exact { same _ with }
      next => exact same _
  | advanceTime now =>
      simp only [environment] at acted
      split at acted
      next =>
        obtain rfl := Option.some.inj acted
        exact same _
      next =>
        obtain rfl := Option.some.inj acted
        refine Said.then_push ?_ rfl
        exact { same _ with }

theorem runTask_told {task : Task} {rest : List Task} (shape : before.stack = task :: rest)
    (ran : runTask config (before.withStack rest) task = some after) : Said none before after := by
  have below : ∀ call, (before.withStack rest).Won call → before.Won call := by
    intro call won
    refine won.imp_left fun held => ?_
    rw [shape]
    exact List.mem_cons_of_mem _ held
  by_cases told : ∃ call ok, task = .complete call ok
  · obtain ⟨call, ok, rfl⟩ := told
    obtain rfl := Option.some.inj ran
    refine ⟨?_, ?_, rfl⟩
    · intro other won
      rcases won with held | observed
      · refine .inl (below other (.inl ?_))
        simpa using held
      · rcases List.mem_append.mp observed with old | new
        · exact .inl (.inr old)
        · obtain ⟨rfl, rfl⟩ : other = call ∧ true = ok := by simpa using new
          exact .inl (.inl (by simp [shape]))
    · simp [calledOf, Observation.calling]
  · push Not at told
    have said := runTask_said told ran
    exact ⟨fun call won => (said.won call won).imp_left (below call), said.called, said.calls⟩

/-- A step other than a call of `WriteCqe`. -/
theorem step_said (taken : step config before event = some after)
    (other : ∀ id cqe, event ≠ .writeCqe id cqe) : Said (before.written event) before after := by
  rcases step_kinds taken with ⟨task, rest, rfl, shape, ran⟩ | ⟨expired, rest, shape, _, rfl⟩ | acted
  · exact runTask_told shape ran
  · refine ⟨fun call won => .inl (won.imp_left fun held => ?_), rfl, rfl⟩
    rw [shape]
    exact List.mem_cons_of_mem _ (by simpa [beginPass] using held)
  · exact environment_said other acted

theorem writeCqe_told (state : State) (id : Nat) (cqe : Cqe) :
    (∀ call, (writeCqe state id cqe).Won call → state.Won call) ∧
      calledOf (writeCqe state id cqe).trace = calledOf state.trace ++
        [(id, ⟨state.calls, (state.jfcs.lookup id).map Jfc.generation, cqe⟩)] ∧
      (writeCqe state id cqe).calls = state.calls + 1 := by
  unfold writeCqe
  simp only
  split
  next =>
    refine ⟨?_, by simp [calledOf, Observation.calling], rfl⟩
    intro call won
    simpa [State.Won] using won
  next =>
    refine ⟨?_, by simp [calledOf, Observation.calling], rfl⟩
    intro call won
    simpa [State.Won] using won

theorem writeCqe_taken {id : Nat} {cqe : Cqe}
    (taken : step config before (.writeCqe id cqe) = some after) : after = writeCqe before id cqe := by
  unfold step at taken
  simp only at taken
  split at taken
  next => exact (Option.some.inj taken).symm
  next => simp at taken

/-- The calls are numbered in order. -/
theorem calls_of_reaches {guard : State → Event → State → Prop}
    (reached : Reaches (step config) guard .initial state) :
    (calledOf state.trace).map (fun called => called.2.call) = List.range state.calls := by
  refine reached.induction_on (fun state => (calledOf state.trace).map (fun called =>
    called.2.call) = List.range state.calls) rfl ?_
  intro before event after _ numbered taken _
  by_cases calls : ∃ id cqe, event = .writeCqe id cqe
  · obtain ⟨id, cqe, rfl⟩ := calls
    obtain rfl := writeCqe_taken taken
    obtain ⟨_, called, calls⟩ := writeCqe_told before id cqe
    rw [called, calls, List.map_append, numbered, List.range_succ]
    rfl
  · push Not at calls
    have said := step_said taken calls
    rw [said.called, said.calls, numbered]

theorem mem_calledOf {trace : List Observation} {id : Nat} {publication : Publication} :
    (id, publication) ∈ calledOf trace ↔ publication ∈ announcedFor id trace := by
  simp only [calledOf, announcedFor, List.mem_filterMap]
  constructor
  · rintro ⟨observation, held, own⟩
    refine ⟨observation, held, ?_⟩
    cases observation <;> simp_all [Observation.calling, Observation.announced]
  · rintro ⟨observation, held, own⟩
    refine ⟨observation, held, ?_⟩
    cases observation <;> simp_all [Observation.calling, Observation.announced]

/-- The number of a call names its JFC and its publication. -/
theorem announced_same {guard : State → Event → State → Prop}
    (reached : Reaches (step config) guard .initial state) {id other : Nat}
    {publication second : Publication} (first : publication ∈ announcedFor id state.trace)
    (next : second ∈ announcedFor other state.trace) (same : publication.call = second.call) :
    id = other ∧ publication = second := by
  have distinct : ((calledOf state.trace).map (fun called => called.2.call)).Nodup := by
    rw [calls_of_reaches reached]
    exact List.nodup_range
  exact Prod.mk.inj (List.inj_on_of_nodup_map distinct (mem_calledOf.mpr first)
    (mem_calledOf.mpr next) same)

/-- The number of a call names one publication. -/
theorem announced_unique {guard : State → Event → State → Prop}
    (reached : Reaches (step config) guard .initial state) {id other : Nat}
    {publication second : Publication} (first : publication ∈ announcedFor id state.trace)
    (next : second ∈ announcedFor other state.trace) (same : publication.call = second.call) :
    publication = second :=
  (announced_same reached first next same).2

/-! ## Publications and the JFC they were meant for -/

/-- The publications of a lane were asked for, and those that can still get a slot were asked
for when the present JFC was there. -/
structure Lane.Faithful (lane : Lane) : Prop where
  known : ∀ publication ∈ lane.pending ++ lane.reading, publication ∈ lane.announced
  own : ∀ ring, lane.ring = some ring → ∀ publication ∈ lane.pending ++ lane.reading,
    publication.origin = some ring.generation
  empty : lane.ring = none → lane.reading = []
  given : ∀ slot ∈ lane.slots, ∃ publication ∈ lane.announced,
    publication.call = slot.call ∧ publication.origin = some slot.generation
  placed : ∀ publication ∈ lane.writing, ∃ slot ∈ lane.slots, slot.call = publication.call

namespace Lane.Faithful

variable {lane next : Lane} {pipelined : Bool} {input : Input} {id : Nat}

/-- A slot of the present ring is given to a publication that waited or read the index. -/
theorem reserve (faithful : lane.Faithful) {ring : Ring} {publication : Publication}
    (held : publication ∈ lane.pending ++ lane.reading) (present : lane.ring = some ring)
    (pending : List Publication) (reading : List Publication) (load consumer : Nat)
    (fewer : pending ++ reading ⊆ lane.pending ++ lane.reading) :
    (Lane.reserve pipelined
      { lane with pending := pending, reading := reading, load := load } ring publication
        consumer).Faithful where
  known := fun other membership => faithful.known other (fewer membership)
  own := by
    intro other same entry membership
    obtain rfl := Option.some.inj same
    exact faithful.own ring present entry (fewer membership)
  empty := by simp [Lane.reserve]
  given := by
    intro slot membership
    rcases List.mem_append.mp membership with old | new
    · exact faithful.given slot old
    · obtain rfl := List.mem_singleton.mp new
      exact ⟨publication, faithful.known publication held, rfl,
        faithful.own ring present publication held⟩
  placed := by
    intro other membership
    rcases List.mem_append.mp membership with old | new
    · obtain ⟨slot, place, same⟩ := faithful.placed other old
      exact ⟨slot, List.mem_append_left _ place, same⟩
    · obtain rfl := List.mem_singleton.mp new
      exact ⟨ring.slot other, List.mem_append_right _ (List.mem_singleton_self _), rfl⟩

theorem move (faithful : lane.Faithful) (moved : Lane.Move pipelined input id lane next)
    (held : lane.reading.length + lane.writing.length ≤ lane.load)
    (absent : input.install = some id → lane.ring = none)
    (vacant : lane.ring = none → next.ring ≠ none → lane.pending = []) : next.Faithful := by
  cases moved with
  | kept calls generations => exact { faithful with }
  | turnedAway publication =>
      refine { faithful with known := ?_, given := ?_ }
      · exact fun other membership => List.mem_append_left _ (faithful.known other membership)
      · intro slot membership
        obtain ⟨other, told, same⟩ := faithful.given slot membership
        exact ⟨other, List.mem_append_left _ told, same⟩
  | accepted publication numbered origin =>
      refine { faithful with known := ?_, own := ?_, given := ?_ }
      · intro other membership
        simp only [List.mem_append, List.mem_singleton] at membership ⊢
        rcases membership with (waiting | rfl) | reading
        · exact .inl (faithful.known other (List.mem_append_left _ waiting))
        · exact .inr rfl
        · exact .inl (faithful.known other (List.mem_append_right _ reading))
      · intro ring present other membership
        simp only [List.mem_append, List.mem_singleton] at membership
        rcases membership with (waiting | rfl) | reading
        · exact faithful.own ring present other (List.mem_append_left _ waiting)
        · rw [origin, present]
          rfl
        · exact faithful.own ring present other (List.mem_append_right _ reading)
      · intro slot membership
        obtain ⟨other, told, same⟩ := faithful.given slot membership
        exact ⟨other, List.mem_append_left _ told, same⟩
  | @refused publication rest waiting =>
      have fewer : rest ++ lane.reading ⊆ lane.pending ++ lane.reading := by
        rw [waiting]
        exact List.subset_cons_self _ _
      exact { faithful with
        known := fun other membership => faithful.known other (fewer membership)
        own := fun ring present other membership => faithful.own ring present other
          (fewer membership) }
  | @refreshing publication rest ring waiting present =>
      have fewer : rest ++ (lane.reading ++ [publication]) ⊆ lane.pending ++ lane.reading := by
        intro other membership
        rw [waiting]
        simp only [List.mem_append, List.mem_cons] at membership ⊢
        tauto
      exact { faithful with
        known := fun other membership => faithful.known other (fewer membership)
        own := fun ring present other membership => faithful.own ring present other
          (fewer membership)
        empty := fun none => absurd (present.symm.trans none) (by simp) }
  | @reserved publication rest ring _ waiting present =>
      refine faithful.reserve (by simp [waiting]) present rest lane.reading (lane.load + 1) _ ?_
      rw [waiting]
      exact List.subset_cons_self _ _
  | @unread publication earlier later shape =>
      have fewer : lane.pending ++ (earlier ++ later) ⊆ lane.pending ++ lane.reading := by
        intro other membership
        rw [shape]
        simp only [List.mem_append, List.mem_cons] at membership ⊢
        tauto
      exact { faithful with
        known := fun other membership => faithful.known other (fewer membership)
        own := fun ring present other membership => faithful.own ring present other
          (fewer membership)
        empty := by
          intro none
          have empty := faithful.empty none
          simp [shape] at empty }
  | @refreshed publication earlier later ring consumer shape present =>
      refine faithful.reserve (by simp [shape]) present lane.pending (earlier ++ later) lane.load
        consumer ?_
      intro other membership
      rw [shape]
      simp only [List.mem_append, List.mem_cons] at membership ⊢
      tauto
  | @written publication earlier later ring shape changed =>
      have placed : ∀ other ∈ earlier ++ later, ∃ slot ∈ lane.slots, slot.call = other.call := by
        intro other membership
        refine faithful.placed other ?_
        rw [shape]
        simp only [List.mem_append, List.mem_cons] at membership ⊢
        tauto
      rcases changed with rfl | ⟨_, old, present, rfl⟩
      · exact { faithful with placed := placed }
      · refine { faithful with placed := placed, own := ?_, empty := by simp }
        intro ring same other membership
        obtain rfl := Option.some.inj same
        exact faithful.own old present other membership
  | released => exact { faithful with }
  | @queried ring consumer asked present =>
      refine { faithful with own := ?_, empty := by simp }
      intro other same entry membership
      obtain rfl := Option.some.inj same
      exact faithful.own ring present entry membership
  | erased none unloaded =>
      have unread : lane.reading = [] := List.length_eq_zero_iff.mp (by omega)
      exact { faithful with own := by simp, empty := fun _ => unread }
  | installed queueIova shift installs =>
      have unread := faithful.empty (absent installs)
      have unqueued := vacant (absent installs) (by simp)
      refine { faithful with own := ?_, empty := by simp }
      intro ring same other membership
      simp [unread, unqueued] at membership

end Lane.Faithful

theorem Lane.Move.install_of_ring {pipelined : Bool} {input : Input} {id : Nat} {lane next : Lane}
    (moved : Lane.Move pipelined input id lane next) (absent : lane.ring = none)
    (present : next.ring ≠ none) : input.install = some id := by
  cases moved with
  | installed queueIova shift installs => exact installs
  | refreshing _ found | reserved _ _ found | refreshed _ found | queried _ found =>
      simp [absent] at found
  | written _ changed =>
      rcases changed with same | ⟨_, old, found, _⟩
      · exact absurd (same.trans absent) present
      · simp [absent] at found
  | erased => simp at present
  | _ => exact absurd absent present

/-- A JFC comes into being only by the context of a create command. -/
theorem installsJfc_of_ring {id : Nat} (taken : step config before event = some after)
    (absent : before.ring id = none) (present : after.ring id ≠ none) :
    id ∈ before.installsJfc event := by
  have install := (step_lane taken id).install_of_ring absent present
  cases event with
  | fire index ok bytes =>
      cases held : before.outstanding[index]? with
      | none => simp [State.input, held] at install
      | some callback =>
          cases callback with
          | contextRead command =>
              have acted : environment config before (.fire index ok bytes) = some after := by
                rcases step_kinds taken with ⟨_, _, other, _⟩ | ⟨expired, rest, shape, _, rfl⟩ | acted
                · simp at other
                · simp [step, shape, State.atBoundary] at taken
                · exact acted
              simp only [environment, held, Option.some.injEq] at acted
              have still := contextRead_still
                (before.withOutstanding (before.outstanding.eraseIdx index)) command ok bytes
              subst acted
              rcases still.rings id with same | gone | touched
              · exact absurd (same.trans absent) present
              · exact absurd gone present
              · simpa [State.installsJfc, held] using touched
          | _ => simp [State.input, held, Callback.input] at install
  | _ => simp [State.input] at install

/-! ## Every callback is called once -/

/-- `WriteCqe` is called, in pipelined mode, for a JFC that exists or is being destroyed. -/
def State.addressed (config : Config) (state : State) : Event → Bool
  | .writeCqe id _ =>
      !config.pipelinedCompletionDma || (state.jfcs.lookup id).isSome || state.draining id
  | _ => true

/-- Calls of `WriteCqe` are addressed, and no JFC is created while publications for its number
are queued. -/
def Addressed (config : Config) (before : State) (event : Event) (_after : State) : Prop :=
  before.addressed config event = true ∧ ∀ id ∈ before.installsJfc event, before.pendingFor id = []

instance (config : Config) (before : State) (event : Event) (after : State) :
    Decidable (Addressed config before event after) := inferInstanceAs (Decidable (_ ∧ _))

theorem faithful_of_reaches (reached : Reaches (step config) (Addressed config) .initial state)
    (id : Nat) : (state.lane config id).Faithful := by
  refine reached.induction_on (fun state => (state.lane config id).Faithful) ?_ ?_
  · exact ⟨nofun, nofun, fun _ => rfl, nofun, nofun⟩
  · intro before event after earlier faithful taken addressed
    refine faithful.move (step_lane taken id) (held_le_load (balanced_of_reaches earlier) id)
      (filed_of_reaches earlier).install_none ?_
    intro absent present
    exact addressed.2 id (installsJfc_of_ring taken absent present)

theorem writeCqe_queues (state : State) (id : Nat) (cqe : Cqe) :
    (writeCqe state id cqe).ring = state.ring ∧
      (state.draining id = true ∧ (writeCqe state id cqe).pendingFor = state.pendingFor ∨
        state.draining id = false ∧ (writeCqe state id cqe).pendingFor =
          Function.update state.pendingFor id ((writeCqe state id cqe).pendingFor id)) := by
  unfold writeCqe
  simp only
  split
  next drains => exact ⟨rfl, .inl ⟨drains, rfl⟩⟩
  next stays =>
    refine ⟨rfl, .inr ⟨by simpa using stays, ?_⟩⟩
    funext other
    by_cases same : other = id
    · rw [same, Function.update_self]
    · simp [State.pendingFor, AList.lookup_insert_ne same, Function.update_of_ne same]

/-- Where `WriteCqe` is called only for a JFC that exists or is being destroyed, publications
wait only for a JFC that exists. -/
theorem present_of_named {guard : State → Event → State → Prop}
    (named : ∀ before id cqe after, guard before (.writeCqe id cqe) after →
      (before.jfcs.lookup id).isSome = true ∨ before.draining id = true)
    (reached : Reaches (step config) guard .initial state) (id : Nat)
    (waiting : state.pendingFor id ≠ []) : (state.ring id).isSome = true := by
  refine reached.induction_on (fun state => state.pendingFor id ≠ [] →
    (state.ring id).isSome = true) (fun waiting => absurd rfl waiting) ?_ waiting
  intro before event after _ known taken addressed waiting
  by_cases calls : ∃ other cqe, event = .writeCqe other cqe
  · obtain ⟨other, cqe, rfl⟩ := calls
    obtain rfl := writeCqe_taken taken
    have allowed := named before other cqe _ addressed
    obtain ⟨ring, pending⟩ := writeCqe_queues before other cqe
    rw [ring]
    rcases pending with ⟨_, same⟩ | ⟨open', grown⟩
    · exact known (same ▸ waiting)
    · by_cases own : id = other
      · subst own
        obtain ⟨jfc, found⟩ :=
          Option.isSome_iff_exists.mp (allowed.resolve_right (by simp [open']))
        simp [State.ring, found]
      · rw [grown, Function.update_of_ne own] at waiting
        exact known waiting
  · push Not at calls
    have said := step_said taken calls
    have moved := step_lane taken id
    have calls : (after.lane config id).calls = (before.lane config id).calls := said.calls
    have waiting : (after.lane config id).pending ≠ [] := waiting
    have known : (before.lane config id).pending ≠ [] →
        (before.lane config id).ring.isSome = true := known
    change (after.lane config id).ring.isSome = true
    generalize after.lane config id = next at *
    generalize before.lane config id = lane at *
    cases moved with
    | turnedAway | accepted => simp at calls
    | refused shape => exact known (by simp [shape])
    | refreshing shape => exact known (by simp [shape])
    | reserved | refreshed | queried | installed => rfl
    | written shape changed =>
        rcases changed with rfl | ⟨_, old, _, rfl⟩
        · exact known waiting
        · rfl
    | erased none => exact absurd none waiting
    | _ => exact known waiting

/-- In pipelined mode publications wait only for a JFC that exists. -/
theorem present_of_reaches (pipelined : config.pipelinedCompletionDma = true)
    (reached : Reaches (step config) (Addressed config) .initial state) (id : Nat)
    (waiting : state.pendingFor id ≠ []) : (state.ring id).isSome = true := by
  refine present_of_named ?_ reached id waiting
  intro before other cqe after addressed
  simpa [State.addressed, pipelined] using addressed.1

theorem served_of_addressed (reached : Reaches (step config) (Addressed config) .initial state) :
    state.Served config false := by
  refine reached.induction_on (State.Served config false) ?_ ?_
  · exact ⟨fun id waiting _ => absurd rfl waiting,
      fun id jfc found => by simp [State.initial] at found⟩
  · intro before event after earlier served taken addressed
    refine served.step (framed_of_reaches earlier) taken (by simp) ?_
    intro _ id installs waits
    exact waits.1 (addressed.2 id installs)

/-- With nothing running and nothing outstanding, and a slot free, nothing waits. -/
theorem nothing_waits (reached : Reaches (step config) (Addressed config) .initial state)
    (rest : state.stack = []) (returned : state.outstanding = [])
    (free : state.completionEventSlotsInUse < config.completionEventSlots) (id : Nat) :
    state.pendingFor id = [] := by
  by_contra waiting
  have known : config.pipelinedCompletionDma = true → (state.ring id).isSome = true :=
    fun pipelined => present_of_reaches pipelined reached id waiting
  have balanced := balanced_of_reaches reached
  have unloaded : state.load config id = 0 := by
    have counted : state.tokens.count (.queue id) = state.load config id := balanced.queues id
    rw [← counted, Multiset.count_eq_zero]
    intro held
    simp only [State.tokens, rest, returned, List.map_nil, List.sum_nil, zero_add,
      Multiset.mem_add] at held
    rcases held with events | queues
    · obtain ⟨event, _, own⟩ := mem_sum_map.mp events
      simp [CompletionEvent.tokens] at own
    · obtain ⟨entry, _, queued⟩ := mem_tableTotal.mp queues
      obtain ⟨publication, _, own⟩ := mem_sum_map.mp queued
      simp [Publication.tokens] at own
  rcases (served_of_addressed reached).publications id waiting known with looks | full | ⟨loaded, _⟩
  · simp [(framed_of_reaches reached).rests rest] at looks
  · omega
  · exact loaded unloaded

theorem slotsOf_mono (taken : step config before event = some after) {id : Nat} {slot : Slot}
    (given : slot ∈ slotsOf id before.trace) : slot ∈ slotsOf id after.trace := by
  rcases (step_lane taken id).slots_cases with same | ⟨_, _, _, _, grown, _⟩
  · have same : slotsOf id after.trace = slotsOf id before.trace := same
    rwa [same]
  · have grown : slotsOf id after.trace = slotsOf id before.trace ++ _ := grown
    rw [grown]
    exact List.mem_append_left _ given

/-- Only the caller of a CQE that has its slot is told of a success. -/
theorem won_of_reaches (reached : Reaches (step config) (Addressed config) .initial state)
    {call : Nat} (won : state.Won call) : ∃ id, ∃ slot ∈ slotsOf id state.trace, slot.call = call := by
  refine reached.induction_on (fun state => ∀ call, state.Won call →
    ∃ id, ∃ slot ∈ slotsOf id state.trace, slot.call = call) ?_ ?_ call won
  · intro call won
    simp [State.Won, State.initial] at won
  · intro before event after earlier given taken addressed call won
    have kept : (∃ id, ∃ slot ∈ slotsOf id before.trace, slot.call = call) →
        ∃ id, ∃ slot ∈ slotsOf id after.trace, slot.call = call := by
      rintro ⟨id, slot, place, same⟩
      exact ⟨id, slot, slotsOf_mono taken place, same⟩
    by_cases calls : ∃ id cqe, event = .writeCqe id cqe
    · obtain ⟨id, cqe, rfl⟩ := calls
      obtain rfl := writeCqe_taken taken
      exact kept (given call ((writeCqe_told before id cqe).1 call won))
    · push Not at calls
      rcases (step_said taken calls).won call won with old | reported
      · exact kept (given call old)
      · cases event with
        | fire index ok bytes =>
            obtain ⟨callback, found, own⟩ := Option.bind_eq_some_iff.mp reported
            cases callback with
            | cqeWritten ticket id publication =>
                simp only [Callback.written, Option.ite_none_right_eq_some,
                  Option.some.injEq] at own
                obtain ⟨_, rfl⟩ := own
                have writing : publication ∈ (before.lane config id).writing :=
                  List.mem_filterMap.mpr ⟨_, List.mem_of_getElem? found, by simp [Callback.writing]⟩
                exact kept ⟨id, (faithful_of_reaches earlier id).placed publication writing⟩
            | _ => simp [Callback.written] at own
        | _ => simp [State.written] at reported

/-- The callbacks that have been called. -/
def completedOf (trace : List Observation) : List Nat := journal trace Entry.completed?

/-- No callback is called twice; when nothing is running and nothing outstanding, and a slot
is free, every one has been called; no caller learns of a success if there was no JFC; and
a CQE goes to the JFC that was there when it was asked for, and to no later one. -/
theorem callback_called_once (reached : Reaches (step config) (Addressed config) .initial state) :
    (completedOf state.trace).Nodup ∧
      (state.stack = [] → state.outstanding = [] →
        state.completionEventSlotsInUse < config.completionEventSlots →
        ∀ call < state.calls, (completedOf state.trace).count call = 1) ∧
      (∀ id, ∀ publication ∈ announcedFor id state.trace, publication.origin = none →
        .completed publication.call true ∉ state.trace) ∧
      ∀ id, ∀ slot ∈ slotsOf id state.trace, ∃ publication ∈ announcedFor id state.trace,
        publication.call = slot.call ∧ publication.origin = some slot.generation := by
  have balanced := balanced_of_reaches reached
  have callers : state.tokens.filterMap Token.caller? +
      (↑(completedOf state.trace) : Multiset Nat) = Multiset.range state.calls := balanced.callers
  have distinct : (completedOf state.trace).Nodup := by
    have within : (↑(completedOf state.trace) : Multiset Nat) ≤ Multiset.range state.calls := by
      rw [← callers]
      exact Multiset.le_add_left _ _
    exact Multiset.coe_nodup.mp (Multiset.nodup_of_le within (Multiset.nodup_range _))
  refine ⟨distinct, ?_, ?_, fun id => (faithful_of_reaches reached id).given⟩
  · intro rest returned free call called
    have silent : state.tokens.filterMap Token.caller? = 0 := by
      refine Multiset.eq_zero_of_forall_notMem fun other held => ?_
      obtain ⟨token, owed, own⟩ := (Multiset.mem_filterMap _ _).mp held
      simp only [State.tokens, rest, returned, List.map_nil, List.sum_nil, zero_add,
        Multiset.mem_add] at owed
      rcases owed with events | queues
      · obtain ⟨event, _, mine⟩ := mem_sum_map.mp events
        obtain rfl := Multiset.mem_singleton.mp mine
        simp [Token.caller?] at own
      · obtain ⟨entry, present, queued⟩ := mem_tableTotal.mp queues
        obtain ⟨publication, waiting, _⟩ := mem_sum_map.mp queued
        have found : state.jfcPublications.lookup entry.1 = some entry.2 :=
          AList.mem_lookup_iff.mpr present
        have none := nothing_waits reached rest returned free entry.1
        rw [State.pendingFor_eq found] at none
        simp [none] at waiting
    rw [silent, zero_add] at callers
    refine List.count_eq_one_of_mem distinct ?_
    rw [← Multiset.mem_coe, callers, Multiset.mem_range]
    exact called
  · intro id publication announced origin told
    obtain ⟨other, slot, place, same⟩ := won_of_reaches reached (.inr told)
    obtain ⟨second, asked, call, owned⟩ := (faithful_of_reaches reached other).given slot place
    obtain rfl := announced_unique reached announced asked (same.symm.trans call.symm)
    rw [origin] at owned
    simp at owned

/-- In serial mode a CQE for JFC 9, which does not exist. -/
def unaddressed : List Event := [.writeCqe 9 .small] ++ pass 14 ++ [.beginPass []] ++ runs 2

theorem missing_jfc_reported :
    ∃ state, Reaches (step (.small false)) (Addressed (.small false)) .initial state ∧
      state.stack = [] ∧ state.outstanding = [] ∧ state.calls = 1 ∧
      (completedOf state.trace).count 0 = 1 ∧ .completed 0 true ∉ state.trace := by
  obtain ⟨state, reached, seen⟩ := exists_of_execute
    (show (execute (step (.small false)) (Addressed (.small false)) unaddressed .initial).map
        (fun state => state.stack == [] && state.outstanding == [] && state.calls == 1 &&
          state.completionEventSlotsInUse == 0 &&
          (announcedFor 9 state.trace).any fun publication =>
            publication.call == 0 && publication.origin == none) = some true by decide +kernel)
  simp only [Bool.and_eq_true, beq_iff_eq, List.any_eq_true] at seen
  obtain ⟨⟨⟨⟨rest, returned⟩, calls⟩, free⟩, publication, announced, call, origin⟩ := seen
  obtain ⟨_, once, failed, _⟩ := callback_called_once reached
  refine ⟨state, reached, rest, returned, calls, once rest returned ?_ 0 (by omega), ?_⟩
  · rw [free]
    exact (Config.small false).slots_bounds.1
  · rw [← call]
    exact failed 9 publication announced origin

/-- In pipelined mode the callback of a CQE for a JFC that does not exist is not called; when
the JFC has been created and another CQE wakes the pump, the old one is written to it. -/
theorem missing_jfc_unreported :
    ∃ state last, Reaches (step (.small true)) always .initial state ∧ state.stack = [] ∧
      state.outstanding = [] ∧ state.completionEventSlotsInUse = 0 ∧ state.calls = 1 ∧
      completedOf state.trace = [] ∧
      (announcedFor 7 state.trace).map Publication.origin = [none] ∧
      Reaches (step (.small true)) always state last ∧
      (slotsOf 7 last.trace).map (fun slot => (slot.call, slot.generation)) = [(0, 0)] := by
  obtain ⟨state, reached, seen⟩ := exists_of_execute
    (show (execute (step (.small true)) always ([.writeCqe 7 .small] ++ pass 6) .initial).map
        (fun state => state.stack == [] && state.outstanding == [] &&
          state.completionEventSlotsInUse == 0 && state.calls == 1 &&
          completedOf state.trace == [] &&
          (announcedFor 7 state.trace).map Publication.origin == [none] &&
          (execute (step (.small true)) always (create .createJfc 7 jfcImage ++
            [.writeCqe 7 .small] ++ pass 4) state).any fun last =>
              (slotsOf 7 last.trace).map (fun slot => (slot.call, slot.generation)) == [(0, 0)]) =
      some true by decide +kernel)
  simp only [Bool.and_eq_true, beq_iff_eq, Option.any_eq_true] at seen
  obtain ⟨⟨⟨⟨⟨⟨rest, returned⟩, free⟩, calls⟩, silent⟩, origin⟩, last, ran, written⟩ := seen
  exact ⟨state, last, reached, rest, returned, free, calls, silent, origin, reaches_of_execute ran,
    written⟩

end Udma.Cq
