import Udma.Receive.Outcome

/-!
# The receive path

What holds of a run as a whole.  Where CQEs are written only for JFCs that exist, a receive
that succeeds has consumed one entry, scattered its frame over the elements of the entry and
published one CQE; one that fails has consumed nothing and published nothing.
-/

namespace Udma.Receive.Queue

open Abi (Bytes Sge load32 load64 store32 store64 sgeBytes)
open Collections Transition
open Cq (Cqe Map tellingOf announcedFor)
open Ledger (Move Moves)

variable {config : Config} {state changed after : State} {arrival : Arrival}

/-! ## The invariants of the receives -/

/-- All that is known of the receives. -/
structure Ledger.Sound (config : Config) (ledger : Ledger) : Prop where
  ordered : ledger.Ordered
  stocked : ledger.Stocked
  served : ledger.Served
  settled : ledger.Settled config

theorem Ledger.Sound.moves {ledger next : Ledger} (sound : ledger.Sound config)
    (moves : Moves config ledger next) : next.Sound config := by
  induction moves with
  | refl => exact sound
  | tail _ moved inductionHypothesis =>
      obtain ⟨ordered, stocked, served, settled⟩ := inductionHypothesis
      exact ⟨ordered.move moved, stocked.move moved, served.move ordered stocked moved,
        settled.move ordered stocked served moved⟩

theorem Ledger.Sound.initial (config : Config) : (State.initial.ledger []).Sound config where
  ordered := ⟨rfl, List.Pairwise.nil, List.Perm.refl _, rfl, nofun⟩
  stocked := ⟨nofun, nofun, nofun, nofun, rfl⟩
  served := ⟨nofun, fun _ _ => ⟨rfl, rfl, rfl⟩, fun _ => Nat.zero_le _, nofun, nofun⟩
  settled := ⟨.refl, nofun, nofun, nofun, List.nodup_nil, nofun⟩

theorem sound_of_reaches {guard : State → Event → State → Prop}
    (reached : Reaches (step config) guard .initial state) :
    (state.ledger []).Sound config := by
  refine reached.induction_on (fun state => (state.ledger []).Sound config) (.initial config) ?_
  intro before event after earlier sound taken _
  exact sound.moves (step_moves (single_of_reaches earlier) (filed_of_reaches earlier) taken)

/-! ## The engine is called again -/

/-- Frames that wait will be looked at. -/
def State.Attended (state : State) : Prop :=
  state.receiveBusy = true ∨ state.receiveFrames = [] ∨ .processReceiveQueue ∈ state.stack

/-- What a function does to the completion engine, and whether it leaves frames behind. -/
structure Course (state after : State) : Prop where
  landed : after.landed = state.landed
  published : after.completion = state.completion ∧ after.awaiting = state.awaiting ∨
    ∃ call : Publishing,
      after.completion = Cq.writeCqe state.completion call.jfcId call.cqe ∧
        after.awaiting = state.awaiting ++ [call]
  attended : .processReceiveQueue ∈ after.stack ∨ state.receiveBusy = after.receiveBusy ∧
    after.receiveFrames.length ≤ state.receiveFrames.length ∧ state.stack ⊆ after.stack

namespace Course

theorem refl (state : State) : Course state state :=
  ⟨rfl, .inl ⟨rfl, rfl⟩, .inr ⟨rfl, le_rfl, List.Subset.refl _⟩⟩

theorem of_end (arrival : Arrival) (ok : Bool) (completion : changed.completion = state.completion)
    (awaiting : changed.awaiting = state.awaiting) (landed : changed.landed = state.landed) :
    Course state (endReceive changed arrival ok) :=
  ⟨landed, .inl ⟨completion, awaiting⟩, .inl (by simp [endReceive, releaseReceive])⟩

theorem of_call (callback : Callback) (completion : changed.completion = state.completion)
    (awaiting : changed.awaiting = state.awaiting) (landed : changed.landed = state.landed)
    (busy : state.receiveBusy = changed.receiveBusy)
    (frames : changed.receiveFrames.length ≤ state.receiveFrames.length)
    (stack : changed.stack = state.stack) : Course state (changed.call callback) :=
  ⟨landed, .inl ⟨completion, awaiting⟩, .inr ⟨busy, frames, by simp [stack]⟩⟩

theorem attends (course : Course state after) (attended : state.Attended) : after.Attended := by
  rcases course.attended with called | ⟨busy, frames, stack⟩
  · exact .inr (.inr called)
  · rcases attended with held | empty | called
    · exact .inl (busy ▸ held)
    · refine .inr (.inl (List.length_eq_zero_iff.mp ?_))
      rw [empty, List.length_nil] at frames
      omega
    · exact .inr (.inr (stack called))

end Course

theorem finishReceive_course (state : State) (arrival : Arrival) (jfrId rqe : Nat) :
    Course state (finishReceive state arrival jfrId rqe) := by
  unfold finishReceive
  split
  next => exact ⟨rfl, .inr ⟨_, rfl, rfl⟩, .inr ⟨rfl, le_rfl, by simp [publish]⟩⟩
  next => exact .of_end arrival false rfl rfl rfl

theorem receiveSge_course (state : State) (arrival : Arrival) (jfrId rqe sge copied : Nat) :
    Course state (receiveSge state arrival jfrId rqe sge copied) := by
  unfold receiveSge
  split
  next => exact .of_end arrival false rfl rfl rfl
  next =>
    split
    next => exact finishReceive_course state arrival jfrId rqe
    next =>
      split
      next => exact .of_end arrival false rfl rfl rfl
      next => exact .of_call _ rfl rfl rfl rfl le_rfl rfl

theorem receiveSend_course (state : State) (arrival : Arrival) :
    Course state (receiveSend state arrival) := by
  unfold receiveSend
  simp only
  split
  next => exact .of_end arrival false rfl rfl rfl
  next =>
    split
    next => exact .of_end arrival false rfl rfl rfl
    next =>
      split
      next => exact .of_end arrival false rfl rfl rfl
      next =>
        split
        next => exact .of_end arrival false rfl rfl rfl
        next =>
          split
          next => exact .of_end arrival false rfl rfl rfl
          next => exact .of_call _ rfl rfl rfl rfl le_rfl rfl

/-- The frames are looked at. -/
theorem processReceiveQueue_course (state : State) :
    (processReceiveQueue state).Attended ∧ (processReceiveQueue state).landed = state.landed ∧
      ((processReceiveQueue state).completion = state.completion ∧
          (processReceiveQueue state).awaiting = state.awaiting ∨
        ∃ call : Publishing, (processReceiveQueue state).completion =
            Cq.writeCqe state.completion call.jfcId call.cqe ∧
          (processReceiveQueue state).awaiting = state.awaiting ++ [call]) := by
  unfold processReceiveQueue
  split
  next empty => exact ⟨.inr (.inl empty), rfl, .inl ⟨rfl, rfl⟩⟩
  next arrival rest queued =>
    split
    next busy => exact ⟨.inl busy, rfl, .inl ⟨rfl, rfl⟩⟩
    next =>
      have course := receiveSend_course ({ state with
          receiveBusy := true
          receiveFrames := rest }.emit [.started arrival.number]) arrival
      exact ⟨course.attends (.inl rfl), course.landed, course.published⟩

theorem applyUbaseMailbox_course (state : State) (command : Command) (context : Bytes) :
    Course state (applyUbaseMailbox state command context) := by
  unfold applyUbaseMailbox
  split
  next => split <;> exact .of_call _ rfl rfl rfl rfl le_rfl rfl
  next => split <;> exact .of_call _ rfl rfl rfl rfl le_rfl rfl
  next => exact .of_call _ rfl rfl rfl rfl le_rfl rfl
  next => exact .of_call _ rfl rfl rfl rfl le_rfl rfl

theorem handleUbaseMailbox_course (config : Config) (state : State) (command : Command) :
    Course state (handleUbaseMailbox config state command) := by
  have destroying : Course state (if state.resourceQueueBusy command.opcode command.tag then
        { state with
          drainingQueue := some (command.opcode, command.tag)
          pendingQueueDestroy := some command }
      else applyUbaseMailbox (destroyQueue state command) command []) := by
    split
    next => exact ⟨rfl, .inl ⟨rfl, rfl⟩, .inr ⟨rfl, le_rfl, List.Subset.refl _⟩⟩
    next =>
      have applied := applyUbaseMailbox_course (destroyQueue state command) command []
      refine ⟨applied.landed, applied.published, applied.attended.imp_right ?_⟩
      exact fun kept => ⟨kept.1, kept.2.1.trans (List.length_filter_le _ _), kept.2.2⟩
  unfold handleUbaseMailbox
  split
  next => exact destroying
  next => exact destroying
  next =>
    split
    next => exact .of_call _ rfl rfl rfl rfl le_rfl rfl
    next => split <;> exact .of_call _ rfl rfl rfl rfl le_rfl rfl
  next =>
    split
    next => exact .of_call _ rfl rfl rfl rfl le_rfl rfl
    next =>
      split
      next => exact .of_call _ rfl rfl rfl rfl le_rfl rfl
      next => split <;> exact .of_call _ rfl rfl rfl rfl le_rfl rfl

theorem maybeCompleteQueueDestroy_course (config : Config) (state : State) :
    Course state (maybeCompleteQueueDestroy config state) := by
  unfold maybeCompleteQueueDestroy
  split
  next => exact .refl state
  next command _ =>
    split
    next => exact .refl state
    next =>
      have handled := handleUbaseMailbox_course config
        { state with pendingQueueDestroy := none, drainingQueue := none } command
      exact ⟨handled.landed, handled.published, handled.attended⟩

theorem runCallback_course (state : State) (ok : Bool) (bytes : Bytes) (callback : Callback) :
    Course state (runCallback state ok bytes callback) := by
  cases callback with
  | producerRead arrival jfrId =>
      simp only [runCallback, producerRead]
      split
      next => exact .of_end arrival false rfl rfl rfl
      next =>
        split
        next =>
          split
          next => exact .of_end arrival false rfl rfl rfl
          next => exact .of_call _ rfl rfl rfl rfl le_rfl rfl
        next => exact .of_end arrival false rfl rfl rfl
  | indexRead arrival jfrId =>
      simp only [runCallback, indexRead]
      split
      next => exact .of_end arrival false rfl rfl rfl
      next =>
        split
        next =>
          split
          next => exact .of_end arrival false rfl rfl rfl
          next => exact receiveSge_course state arrival jfrId _ 0 0
        next => exact .of_end arrival false rfl rfl rfl
  | sgeRead arrival jfrId rqe sge copied =>
      simp only [runCallback, sgeRead]
      split
      next =>
        split
        next => exact .of_end arrival false rfl rfl rfl
        next =>
          split
          next => exact .of_end arrival false rfl rfl rfl
          next => exact .of_call _ rfl rfl rfl rfl le_rfl rfl
      next => exact .of_end arrival false rfl rfl rfl
  | payloadWritten arrival jfrId rqe sge copied chunk =>
      simp only [runCallback, payloadWritten]
      split
      next =>
        have course := receiveSge_course (state.emit [.payloadWritten arrival.number]) arrival jfrId
          rqe (sge + 1) ((copied + chunk) % 2 ^ 32)
        exact ⟨course.landed, course.published, course.attended⟩
      next => exact .of_end arrival false rfl rfl rfl
  | contextRead command =>
      simp only [runCallback, contextRead]
      split
      next => exact applyUbaseMailbox_course state command bytes
      next => exact .of_call _ rfl rfl rfl rfl le_rfl rfl
  | descriptorWritten => exact ⟨rfl, .inl ⟨rfl, rfl⟩, .inr ⟨rfl, le_rfl, List.Subset.refl _⟩⟩

theorem cqeWritten_attended (state : State) (publishing : Publishing) (ok : Bool) :
    (cqeWritten state publishing ok).Attended :=
  .inr (.inr (by simp [cqeWritten, endReceive, releaseReceive]))

theorem cqeWritten_completion (state : State) (publishing : Publishing) (ok : Bool) :
    (cqeWritten state publishing ok).completion = state.completion ∧
      (cqeWritten state publishing ok).landed = state.landed := by
  cases ok with
  | false => exact ⟨rfl, rfl⟩
  | true =>
      simp only [cqeWritten, if_true, consume]
      split <;> exact ⟨rfl, rfl⟩

/-- A step of the completion engine. -/
theorem completionStep_course {inner : Cq.Event} (attended : state.Attended)
    (taken : completionStep config state inner = some after) :
    after.Attended ∧ Cq.step config.completion state.completion inner = some after.completion ∧
      after.landed = state.landed ++ (state.completion.landing inner).toList := by
  unfold completionStep at taken
  obtain ⟨completion, stepped, rfl⟩ := Option.map_eq_some_iff.mp taken
  simp only
  split
  next => exact ⟨attended, stepped, rfl⟩
  next call ok _ =>
    split
    next => exact ⟨attended, stepped, rfl⟩
    next publishing _ =>
      obtain ⟨same, landed⟩ := cqeWritten_completion
        { state with
          completion := completion
          landed := state.landed ++ (state.completion.landing inner).toList
          awaiting := state.awaiting.erase publishing } publishing ok
      exact ⟨cqeWritten_attended _ publishing ok, same ▸ stepped, landed⟩

/-- What a step does to the completion engine. -/
theorem step_course {event : Event} (attended : state.Attended)
    (taken : step config state event = some after) :
    after.Attended ∧ ((∃ inner, event = .completion inner ∧
          Cq.step config.completion state.completion inner = some after.completion ∧
          after.landed = state.landed ++ (state.completion.landing inner).toList) ∨
        (∀ inner, event ≠ .completion inner) ∧ state.completion.atBoundary = true ∧
          after.landed = state.landed ∧
          (after.completion = state.completion ∧ after.awaiting = state.awaiting ∨
            ∃ call : Publishing,
              after.completion = Cq.writeCqe state.completion call.jfcId call.cqe ∧
                after.awaiting = state.awaiting ++ [call])) := by
  have by_course {event : Event} {start : State} (course : Course start after)
      (begun : start.Attended) (landed : start.landed = state.landed)
      (completion : start.completion = state.completion)
      (awaiting : start.awaiting = state.awaiting) (other : ∀ inner, event ≠ .completion inner)
      (idle : state.completion.atBoundary = true) :
      after.Attended ∧ ((∃ inner, event = .completion inner ∧
          Cq.step config.completion state.completion inner = some after.completion ∧
          after.landed = state.landed ++ (state.completion.landing inner).toList) ∨
        (∀ inner, event ≠ .completion inner) ∧ state.completion.atBoundary = true ∧
          after.landed = state.landed ∧
          (after.completion = state.completion ∧ after.awaiting = state.awaiting ∨
            ∃ call : Publishing,
              after.completion = Cq.writeCqe state.completion call.jfcId call.cqe ∧
                after.awaiting = state.awaiting ++ [call])) := by
    have published := course.published
    rw [completion, awaiting] at published
    exact ⟨course.attends begun, .inr ⟨other, idle, course.landed.trans landed, published⟩⟩
  rcases step_cases taken with ⟨task, rest, rfl, shape, idle, rfl⟩ | ⟨acted, idle⟩
  · have begun (other : task ≠ .processReceiveQueue) : ({ state with stack := rest }).Attended := by
      refine attended.imp_right fun waits => waits.imp_right fun held => ?_
      rw [shape, List.mem_cons] at held
      exact held.resolve_left (Ne.symm other)
    cases task with
    | external => exact by_course (Course.refl _) (begun (by simp)) rfl rfl rfl (by simp) idle
    | maybeCompleteQueueDestroy =>
        exact by_course (maybeCompleteQueueDestroy_course config _) (begun (by simp)) rfl rfl rfl
          (by simp) idle
    | processReceiveQueue =>
        obtain ⟨looked, landed, published⟩ :=
          processReceiveQueue_course { state with stack := rest }
        exact ⟨looked, .inr ⟨by simp, idle, landed, published⟩⟩
  · cases event with
    | run => simp [environment] at acted
    | fire index ok bytes =>
        obtain ⟨callback, _, rfl⟩ := Option.map_eq_some_iff.mp acted
        exact by_course (runCallback_course _ ok bytes callback) attended rfl rfl rfl (by simp)
          (idle.resolve_left (by simp))
    | receive frame =>
        obtain rfl := Option.some.inj acted
        let arrival : Arrival := ⟨state.arrivals, frame⟩
        obtain ⟨looked, landed, published⟩ := processReceiveQueue_course
          ({ state with
              receiveFrames := state.receiveFrames ++ [arrival]
              arrivals := state.arrivals + 1 }.emit [.arrived arrival])
        exact ⟨looked, .inr ⟨by simp, idle.resolve_left (by simp), landed, published⟩⟩
    | mailbox command =>
        simp only [environment] at acted
        split at acted
        next => simp at acted
        next =>
          obtain rfl := Option.some.inj acted
          exact by_course (handleUbaseMailbox_course config { state with ubaseBusy := true } command)
            attended rfl rfl rfl (by simp) (idle.resolve_left (by simp))
    | sendEngine busy =>
        obtain rfl := Option.some.inj acted
        exact by_course (Course.refl _) attended rfl rfl rfl (by simp) (idle.resolve_left (by simp))
    | maybeCompleteQueueDestroy =>
        obtain rfl := Option.some.inj acted
        refine by_course (Course.refl _) ?_ rfl rfl rfl (by simp) (idle.resolve_left (by simp))
        simpa [State.Attended] using attended
    | completion inner =>
        obtain ⟨looked, stepped, landed⟩ := completionStep_course attended acted
        exact ⟨looked, .inl ⟨inner, rfl, stepped, landed⟩⟩

/-! ## Runs in which the JFCs exist -/

/-- Whether `WriteCqe` is called only for a JFC that exists, by this engine or by others. -/
def State.namesJfc (state after : State) : Event → Bool
  | .completion inner => state.completion.named inner
  | _ => (after.awaiting.drop state.awaiting.length).all fun call =>
      state.completion.named (.writeCqe call.jfcId call.cqe)

/-- CQEs are written only for JFCs that exist. -/
def JfcsExist (before : State) (event : Event) (after : State) : Prop :=
  before.namesJfc after event = true

instance (before : State) (event : Event) (after : State) :
    Decidable (JfcsExist before event after) := inferInstanceAs (Decidable (_ = true))

/-- The completion engine behind a run, and the frames that wait. -/
structure State.Backed (config : Config) (state : State) : Prop where
  attended : state.Attended
  named : Reaches (Cq.step config.completion) Cq.Named .initial state.completion
  landed : Cq.Landed state.completion state.landed

theorem State.Backed.step {before : State} {event : Event} (backed : before.Backed config)
    (taken : step config before event = some after) (named : JfcsExist before event after) :
    after.Backed config := by
  obtain ⟨attended, reached, landed⟩ := backed
  have addressed := Cq.addressed_of_named reached
  obtain ⟨looked, ⟨inner, rfl, stepped, more⟩ | ⟨other, idle, same, published⟩⟩ :=
    step_course attended taken
  · refine ⟨looked, reached.tail stepped named, ?_⟩
    rw [more]
    exact landed.step addressed stepped
  · rcases published with ⟨still, _⟩ | ⟨call, written, waits⟩
    · exact ⟨looked, still ▸ reached, by rw [still, same]; exact landed⟩
    · have stepped : Cq.step config.completion before.completion (.writeCqe call.jfcId call.cqe) =
          some after.completion := by
        unfold Cq.step
        simp [idle, Cq.environment, written]
      have exists' : before.completion.named (.writeCqe call.jfcId call.cqe) = true := by
        have all : before.namesJfc after event = true := named
        cases event with
        | completion inner => exact absurd rfl (other inner)
        | _ => simpa [State.namesJfc, waits] using all
      refine ⟨looked, reached.tail stepped exists', ?_⟩
      rw [same]
      have more := landed.step addressed stepped
      simpa [Cq.State.landing] using more

theorem backed_of_reaches (reached : Reaches (step config) JfcsExist .initial state) :
    state.Backed config :=
  reached.invariant ⟨.inr (.inl rfl), .refl, .initial⟩
    fun _ _ _ backed taken named => backed.step taken named

/-! ## Outcomes -/

/-- The CQEs of a frame that have landed, each with its JFC. -/
def State.cqesOf (state : State) (number : Nat) : List (Nat × Cqe) :=
  (state.landed.filter fun cqe => (publishedOf state.trace).any fun call =>
    call.call == cqe.2.call && call.arrival.number == number).map fun cqe => (cqe.1, cqe.2.cqe)

/-- A frame has consumed one entry and was scattered over it, and one CQE tells its length. -/
def State.Delivered (state : State) (number : Nat) : Prop :=
  ∃ call ∈ publishedOf state.trace,
    call.arrival ∈ arrivedOf state.trace ∧ call.arrival.number = number ∧
    (consumedOf state.trace).filter (fun used => used.1 == number) = [(number, call.jfrId)] ∧
    (∃ jfr, .installed call.jfrId jfr ∈ state.trace ∧
      Scattered jfr call.rqe call.arrival.frame.bytes (transfersOf number state.trace)) ∧
    writtenOf number state.trace = (transfersOf number state.trace).length ∧
    state.cqesOf number = [(call.jfcId, receiveCqe call.arrival.frame call.rqe)] ∧
    (receiveCqe call.arrival.frame call.rqe).byteCount = call.arrival.frame.bytes.length

/-- A frame has consumed nothing, and has no CQE. -/
def State.Dropped (state : State) (number : Nat) : Prop :=
  number ∉ (consumedOf state.trace).map Prod.fst ∧ state.cqesOf number = []

/-- Nothing is running and no callback is missing, and the completion engine has a slot. -/
structure State.AtRest (config : Config) (state : State) : Prop where
  stack : state.stack = []
  outstanding : state.outstanding = []
  completionStack : state.completion.stack = []
  completionOutstanding : state.completion.outstanding = []
  slots : state.completion.completionEventSlotsInUse < config.completion.completionEventSlots

theorem filter_key {Key Entry : Type} [DecidableEq Key] {entries : List Entry} {key : Entry → Key}
    (distinct : (entries.map key).Nodup) {entry : Entry} (member : entry ∈ entries) :
    entries.filter (fun other => key other == key entry) = [entry] := by
  induction entries with
  | nil => simp at member
  | cons first rest inductionHypothesis =>
      rw [List.map_cons, List.nodup_cons] at distinct
      obtain ⟨fresh, distinct⟩ := distinct
      rcases List.mem_cons.mp member with rfl | later
      · rw [List.filter_cons_of_pos (by simp), List.filter_eq_nil_iff.mpr]
        intro other held same
        exact fresh (List.mem_map.mpr ⟨other, held, by simpa using same⟩)
      · rw [List.filter_cons_of_neg, inductionHypothesis distinct later]
        intro same
        refine fresh (List.mem_map.mpr ⟨entry, later, ?_⟩)
        simpa using (beq_iff_eq.mp same).symm

theorem Ledger.Ordered.ended_nodup {ledger : Ledger} (ordered : ledger.Ordered) :
    ((endedOf ledger.trace).map Prod.fst).Nodup := by
  have sorted := (List.pairwise_append.mp ordered.queue).1
  rw [ordered.order] at sorted
  exact (List.pairwise_append.mp sorted).1.imp fun less => ne_of_lt less

/-- A caller is told one outcome. -/
theorem told_unique {completion : Cq.State} {guard : Cq.State → Cq.Event → Cq.State → Prop}
    (reached : Reaches (Cq.step config.completion) guard .initial completion) {call : Nat}
    (failed : (call, false) ∈ tellingOf completion.trace) : ¬ completion.Won call := by
  intro won
  have distinct := (List.nodup_append.mp (Cq.callers_nodup (Cq.balanced_of_reaches reached))).2.1
  have both := List.inj_on_of_nodup_map distinct (List.mem_append_right _ failed)
    ((Cq.mem_told_iff completion call).mpr won) rfl
  simp at both

theorem delivered (sound : (state.ledger []).Sound config) (backed : state.Backed config)
    {number : Nat} (ended : (number, true) ∈ endedOf state.trace) : state.Delivered number := by
  obtain ⟨ordered, stocked, served, settled⟩ := sound
  obtain ⟨call, member, own, used⟩ := settled.success number ended
  have member : call ∈ publishedOf state.trace := member
  obtain ⟨scattered, written, small⟩ := served.complete call member
  obtain ⟨called, ⟨origin, announced⟩, entry, known⟩ := settled.asked call member
  have told := settled.told call member true (own ▸ ended)
  obtain ⟨cqe, lands, same⟩ := List.mem_map.mp ((backed.landed.won_iff call.call).mpr
    (.inr (Cq.mem_tellingOf_iff.mp told)))
  have equal := Cq.announced_same backed.named (backed.landed.imaged cqe lands).1 announced same
  refine ⟨call, member, known, own, ?_, own ▸ scattered, own ▸ written, ?_, Nat.mod_eq_of_lt small⟩
  · have distinct : ((consumedOf state.trace).map Prod.fst).Nodup := by
      have successes : (consumedOf state.trace).map Prod.fst =
          ((endedOf state.trace).filter Prod.snd).map Prod.fst := stocked.consumed
      rw [successes]
      exact ordered.ended_nodup.sublist (List.filter_sublist.map _)
    exact filter_key distinct used
  · have only : (state.landed.filter fun cqe => (publishedOf state.trace).any fun call =>
        call.call == cqe.2.call && call.arrival.number == number) =
          state.landed.filter fun other => other.2.call == cqe.2.call := by
      refine List.filter_congr fun other _ => ?_
      rw [Bool.eq_iff_iff, List.any_eq_true, same, beq_iff_eq]
      constructor
      · rintro ⟨first, published, matching⟩
        simp only [Bool.and_eq_true, beq_iff_eq] at matching
        obtain rfl := List.inj_on_of_nodup_map settled.once published member
          (matching.2.trans own.symm)
        exact matching.1.symm
      · intro matching
        exact ⟨call, member, by simp [matching, own]⟩
    rw [State.cqesOf, only, filter_key backed.landed.distinct lands, List.map_singleton, equal.1,
      equal.2, entry]

theorem dropped (sound : (state.ledger []).Sound config) (backed : state.Backed config)
    {number : Nat} (ended : (number, false) ∈ endedOf state.trace) : state.Dropped number := by
  obtain ⟨ordered, stocked, served, settled⟩ := sound
  constructor
  · intro used
    have successes : (consumedOf state.trace).map Prod.fst =
        ((endedOf state.trace).filter Prod.snd).map Prod.fst := stocked.consumed
    rw [successes] at used
    obtain ⟨other, held, same⟩ := List.mem_map.mp used
    obtain ⟨member, success⟩ := List.mem_filter.mp held
    obtain rfl := List.inj_on_of_nodup_map ordered.ended_nodup member ended same
    simp at success
  · rw [State.cqesOf, List.map_eq_nil_iff, List.filter_eq_nil_iff]
    intro cqe lands matching
    obtain ⟨call, member, matching⟩ := List.any_eq_true.mp matching
    simp only [Bool.and_eq_true, beq_iff_eq] at matching
    have told := settled.told call member false (matching.2 ▸ ended)
    refine told_unique backed.named told ((backed.landed.won_iff call.call).mp ?_)
    exact List.mem_map.mpr ⟨cqe, lands, matching.1.symm⟩

/-- The engine does not stay behind. -/
theorem released (sound : (state.ledger []).Sound config) (backed : state.Backed config)
    (single : state.Single) (rest : state.AtRest config) :
    state.receiveBusy = false ∧ state.receiveFrames = [] := by
  have idle : state.receiveBusy = false := by
    by_contra busy
    rw [Bool.not_eq_false] at busy
    rw [State.Single, busy, State.held, rest.outstanding, List.filterMap_nil, List.nil_append,
      List.length_map] at single
    obtain ⟨call, only⟩ := List.length_eq_one_iff.mp single
    have held : call.reception ∈ (state.ledger []).receptions := by
      simp [State.ledger, State.held, rest.outstanding, only]
    obtain ⟨published, untold⟩ := sound.settled.waiting call held
    have called := (sound.settled.asked call published).called
    have once := (Cq.callback_called_once (Cq.addressed_of_named backed.named)).2.1
      rest.completionStack rest.completionOutstanding rest.slots call.call called
    have told := List.count_pos_iff.mp (once ▸ Nat.one_pos)
    rw [← Cq.completed_told] at told
    obtain ⟨outcome, seen, same⟩ := List.mem_map.mp told
    exact untold outcome.2 (same ▸ seen)
  refine ⟨idle, ?_⟩
  have waits : state.receiveFrames = [] ∨ .processReceiveQueue ∈ state.stack :=
    backed.attended.resolve_left (by simp [idle])
  exact waits.resolve_right (by simp [rest.stack])

/-- Frames are received one at a time in the order of their arrival, and the engine has been
released after each when everything is at rest with a free completion slot; a receive that
succeeds has consumed one entry, scattered its frame over the entry's elements and published one
CQE; one that fails has consumed and published nothing. -/
theorem receive_path (reached : Reaches (step config) JfcsExist .initial state) :
    ((arrivedOf state.trace).map Arrival.number = List.range state.arrivals ∧
      startedOf state.trace = (endedOf state.trace).map Prod.fst ++
        state.held.map (fun held => held.arrival.number) ∧
      (startedOf state.trace ++ state.receiveFrames.map Arrival.number).Pairwise (· < ·) ∧
      (startedOf state.trace ++ purgedOf state.trace ++
        state.receiveFrames.map Arrival.number).Perm (List.range state.arrivals) ∧
      state.held.length = state.receiveBusy.toNat) ∧
    (∀ number, requestsOf number state.trace ≤ 258) ∧
    (state.AtRest config → state.receiveBusy = false ∧ state.receiveFrames = []) ∧
    (∀ number, (number, true) ∈ endedOf state.trace → state.Delivered number) ∧
    (∀ number, (number, false) ∈ endedOf state.trace → state.Dropped number) ∧
    ∀ id jfr, state.jfrs.lookup id = some jfr →
      jfr.consumer = consumedSince id state.trace := by
  have sound := sound_of_reaches reached
  have backed := backed_of_reaches reached
  have single := single_of_reaches reached
  exact ⟨⟨sound.ordered.numbered, sound.ordered.order, sound.ordered.queue, sound.ordered.census,
    single⟩, sound.served.bounded, released sound backed single, fun _ => delivered sound backed,
    fun _ => dropped sound backed, sound.stocked.counted⟩

/-! ## A small run -/

def Config.small : Config := ⟨.small true, 4⟩

/-- The context of a JFR with two elements in an entry, whose CQEs go to JFC 7. -/
def jfrImage : Bytes :=
  store64 0x100000000210 ++ (List.replicate 24 0 : Bytes) ++ store64 (7 <<< 52 ||| 2) ++
    store64 0x100 ++ (List.replicate 80 0 : Bytes)

/-- The context of a Jetty that receives from JFR 3. -/
def jettyImage : Bytes :=
  store64 0x100000000000 ++ (List.replicate 8 0 : Bytes) ++ store64 (3 <<< 20) ++
    (List.replicate 104 0 : Bytes)

/-- A create command with the read and the write it makes. -/
def create (opcode : Opcode) (tag : Nat) (image : Bytes) : List Event :=
  [.mailbox ⟨opcode, tag, 0x1000⟩, .run, .fire 0 true image, .run, .fire 0 true []]

def Frame.small (jettyId : Nat) : Frame := ⟨.send, 1, 2, jettyId, 0, 0, [1, 2, 3]⟩

def answered (bytes : Bytes) : List Event := [.fire 0 true bytes, .run]

def outside (events : List Cq.Event) : List Event := events.map .completion

/-- A frame fills one element and a part of another; the next one is for a Jetty that does
not exist. -/
def received : List Event :=
  outside Cq.created ++ create .createJfr 3 jfrImage ++ create .createJfs 5 jettyImage ++
    [.receive (.small 5), .run, .receive (.small 6)] ++ answered (store32 1) ++
    answered (store32 0) ++ answered (store64 2 ++ store64 0x5000) ++ answered [] ++
    answered (store64 4 ++ store64 0x6000) ++ [.fire 0 true []] ++
    outside (Cq.pass 8 ++ [.fire 0 true []] ++ Cq.runs 8) ++ List.replicate 5 .run ++
    outside (Cq.runs 3 ++ [.beginPass []] ++ Cq.runs 8 ++ [.fire 0 true [], .run, .fire 0 true []] ++
      Cq.runs 2 ++ [.beginPass []] ++ Cq.runs 8)

theorem received_path :
    ∃ state, Reaches (step .small) JfcsExist .initial state ∧
      endedOf state.trace = [(0, true), (1, false)] ∧ state.receiveBusy = false ∧
      state.receiveFrames = [] ∧ state.Delivered 0 ∧ state.Dropped 1 ∧
      ∃ jfr, state.jfrs.lookup 3 = some jfr ∧ jfr.consumer = 1 := by
  obtain ⟨state, reached, seen⟩ := exists_of_execute
    (show (execute (step .small) JfcsExist received .initial).map
        (fun state => state.stack == [] && state.outstanding == [] &&
          state.completion.stack == [] && state.completion.outstanding == [] &&
          state.completion.completionEventSlotsInUse == 0 &&
          endedOf state.trace == [(0, true), (1, false)] &&
          (state.jfrs.lookup 3).isSome && consumedSince 3 state.trace == 1) =
      some true by decide +kernel)
  simp only [Bool.and_eq_true, beq_iff_eq] at seen
  obtain ⟨⟨⟨⟨⟨⟨⟨stack, outstanding⟩, rest⟩, returned⟩, slots⟩, ended⟩, present⟩, count⟩ := seen
  obtain ⟨_, _, released, delivered, dropped, consumers⟩ := receive_path reached
  have quiet : state.AtRest .small :=
    ⟨stack, outstanding, rest, returned, slots ▸ Config.small.completion.slots_bounds.1⟩
  obtain ⟨jfr, found⟩ := Option.isSome_iff_exists.mp present
  refine ⟨state, reached, ended, (released quiet).1, (released quiet).2, delivered 0 ?_,
    dropped 1 ?_, jfr, found, ?_⟩
  · simp [ended]
  · simp [ended]
  · rw [consumers 3 jfr found, count]

end Udma.Receive.Queue
