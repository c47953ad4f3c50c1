import Udma.Cq.Notices

/-!
# One-shot notifications

With one-shot notifications a JFC notifies only while it is armed, and each notification uses
the arm up.  A life of the device is a run of the engine with restores from checkpoints, which
keep the arms or, from an older format, drop them.
-/

namespace Udma.Cq

open Udma.Abi Udma.Arithmetic Udma.Collections Udma.Transition

def Observation.arms (id : Nat) : Observation → Bool
  | .armed own => own == id
  | _ => false

def Observation.notifies (id : Nat) : Observation → Bool
  | .enqueued own _ => own == id
  | _ => false

/-- What one JFC shows of its notifications; the last two count the accepted arm doorbells and
the events that were enqueued. -/
@[ext]
structure Signal where
  armed : Bool
  present : Bool
  mapped : Bool
  arms : Nat
  events : Nat
  deriving DecidableEq, Repr

def State.signal (state : State) (id : Nat) : Signal where
  armed := state.armed id
  present := (state.jfcs.lookup id).isSome
  mapped := (state.jfcCeqs.lookup id).isSome
  arms := state.trace.countP (Observation.arms id)
  events := state.trace.countP (Observation.notifies id)

namespace Signal

/-- Only an existing JFC is armed, and it has a CEQ. -/
structure Sound (signal : Signal) : Prop where
  present : signal.armed = true → signal.present = true
  mapped : signal.present = true → signal.mapped = true

/-- A notification point: an armed JFC enqueues an event and is no longer armed. -/
def notified (signal : Signal) : Signal :=
  if signal.armed then { signal with armed := false, events := signal.events + 1 } else signal

def arm (signal : Signal) : Signal := { signal with armed := true, arms := signal.arms + 1 }

def created (signal : Signal) : Signal :=
  { signal with armed := false, present := true, mapped := true }

def erased (signal : Signal) : Signal :=
  { signal with armed := false, present := false, mapped := false }

/-- What a step can do to a JFC.  The flags say whether it is a notification point of the JFC
and whether it is an accepted arm doorbell. -/
inductive Move (point doorbell : Bool) (before : Signal) : Signal → Prop where
  | kept (quiet : point = false ∧ doorbell = false) : Move point doorbell before before
  | created (quiet : point = false ∧ doorbell = false) : Move point doorbell before before.created
  | erased (quiet : point = false ∧ doorbell = false) : Move point doorbell before before.erased
  | dropped (quiet : point = false ∧ doorbell = false) :
      Move point doorbell before { before with armed := false }
  | notified (now : point = true ∧ doorbell = false) : Move point doorbell before before.notified
  | armed (now : point = false ∧ doorbell = true) (present : before.present = true) :
      Move point doorbell before before.arm

theorem Move.sound {point doorbell : Bool} {before after : Signal}
    (move : Move point doorbell before after) (sound : before.Sound) : after.Sound := by
  cases move with
  | kept => exact sound
  | created => exact ⟨by simp [Signal.created], by simp [Signal.created]⟩
  | erased => exact ⟨by simp [Signal.erased], by simp [Signal.erased]⟩
  | dropped => exact ⟨by simp, sound.mapped⟩
  | notified =>
      unfold Signal.notified
      split
      next => exact ⟨by simp, sound.mapped⟩
      next => exact sound
  | armed _ present => exact ⟨fun _ => present, sound.mapped⟩

theorem Move.of_eq {before after : Signal} (same : after = before) {point doorbell : Bool}
    (quiet : point = false ∧ doorbell = false) : Move point doorbell before after := by
  subst same
  exact .kept quiet

/-- An arm allows one event. -/
theorem Move.credit {point doorbell : Bool} {before after : Signal}
    (move : Move point doorbell before after) :
    after.events + after.armed.toNat + before.arms ≤
      before.events + before.armed.toNat + after.arms := by
  cases move with
  | kept => exact Nat.le_refl _
  | created => simp [Signal.created]
  | erased => simp [Signal.erased]
  | dropped => simp
  | notified =>
      unfold Signal.notified
      split
      next armed =>
        simp [armed]
      next => exact Nat.le_refl _
  | armed =>
      have bound := Bool.toNat_le before.armed
      simp only [Signal.arm, Bool.toNat_true]
      omega

/-- Events come from notification points of an armed JFC and use the arm up. -/
theorem Move.events {point doorbell : Bool} {before after : Signal}
    (move : Move point doorbell before after) :
    after.events = before.events + (point && before.armed).toNat ∧
      (point = true → after.armed = false) := by
  cases move with
  | kept quiet => simp [quiet.1]
  | created quiet => simp [quiet.1, Signal.created]
  | erased quiet => simp [quiet.1, Signal.erased]
  | dropped quiet => simp [quiet.1]
  | notified now =>
      unfold Signal.notified
      split
      next armed => simp [now.1, armed]
      next idle => simpa [now.1] using idle
  | armed now => simp [now.1, Signal.arm]

theorem Move.arms {point doorbell : Bool} {before after : Signal}
    (move : Move point doorbell before after) : after.arms = before.arms + doorbell.toNat := by
  cases move with
  | kept quiet => simp [quiet.2]
  | created quiet => simp [quiet.2, Signal.created]
  | erased quiet => simp [quiet.2, Signal.erased]
  | dropped quiet => simp [quiet.2]
  | notified now =>
      unfold Signal.notified
      split <;> simp [now.2]
  | armed now => simp [now.2, Signal.arm]

/-- A JFC that comes into being is not armed. -/
theorem Move.unarmed {point doorbell : Bool} {before after : Signal}
    (move : Move point doorbell before after) (absent : before.present = false)
    (present : after.present = true) : after.armed = false := by
  cases move with
  | kept => simp [absent] at present
  | created => rfl
  | erased => rfl
  | dropped => rfl
  | notified =>
      unfold Signal.notified at present
      split at present <;> simp [absent] at present
  | armed _ held => simp [absent] at held

end Signal

/-! ## Steps without a notice -/

/-- A step that leaves arms, mappings and notices alone and creates and erases no JFC. -/
structure Silent (state after : State) : Prop where
  present : ∀ id, (after.jfcs.lookup id).isSome = (state.jfcs.lookup id).isSome
  armed : after.armedJfcs = state.armedJfcs
  mappings : after.jfcCeqs = state.jfcCeqs
  trace : noticesOf after.trace = noticesOf state.trace

section Steps

variable {config : Config} {state changed after before : State}

theorem Unnoticed.silent (unnoticed : Unnoticed state after) : Silent state after where
  present := fun id => by
    have same := congrArg Option.isSome (congrFun unnoticed.timer id)
    simpa [State.timer] using same
  armed := unnoticed.armed
  mappings := unnoticed.mappings
  trace := unnoticed.trace

theorem countP_noticesOf {select : Observation → Bool}
    (notice : ∀ observation, select observation = true → observation.notice = true)
    (trace : List Observation) : (noticesOf trace).countP select = trace.countP select := by
  rw [noticesOf, List.countP_filter]
  refine List.countP_congr fun observation _ => ?_
  simp only [Bool.and_eq_true]
  exact ⟨And.left, fun selected => ⟨selected, notice observation selected⟩⟩

theorem State.arms_eq (state : State) (id : Nat) :
    (state.signal id).arms = (noticesOf state.trace).countP (Observation.arms id) :=
  (countP_noticesOf (fun observation own => by
    cases observation <;> simp_all [Observation.arms, Observation.notice]) _).symm

theorem State.events_eq (state : State) (id : Nat) :
    (state.signal id).events = (noticesOf state.trace).countP (Observation.notifies id) :=
  (countP_noticesOf (fun observation own => by
    cases observation <;> simp_all [Observation.notifies, Observation.notice]) _).symm

theorem Silent.signal (silent : Silent state after) (id : Nat) :
    after.signal id = state.signal id := by
  apply Signal.ext
  · change after.armed id = state.armed id
    rw [State.armed, silent.armed]
    rfl
  · exact silent.present id
  · change (after.jfcCeqs.lookup id).isSome = (state.jfcCeqs.lookup id).isSome
    rw [silent.mappings]
  · rw [State.arms_eq, State.arms_eq, silent.trace]
  · rw [State.events_eq, State.events_eq, silent.trace]

/-! ## The steps -/

def Task.notifies (id : Nat) : Task → Bool
  | .emitCompletionEvent _ own => own == id
  | _ => false

/-- The step is a notification point of the JFC. -/
def State.notifies (state : State) (id : Nat) : Event → Bool
  | .run =>
      match state.stack with
      | task :: _ => task.notifies id
      | [] => false
  | _ => false

/-- The step is an arm doorbell of the JFC that is accepted. -/
def State.arms (config : Config) (state : State) (id : Nat) : Event → Bool
  | .jfcDoorbell value =>
      config.oneShotJfcNotifications && (value &&& (1 <<< 27) != 0) &&
        (value &&& 0xfff00000f0000000 == 0) && ((value >>> 32) &&& 0xfffff == id) &&
        (state.jfcs.lookup id).isSome
  | _ => false

theorem pumpTimers_silent (config : Config) (state : State) (expired : List Nat) :
    Silent state (pumpTimers config state expired) := by
  unfold pumpTimers pumpTimer
  split
  next => exact ((Unnoticed.refl state).then_push _).silent
  next id rest =>
    split
    next => exact ((Unnoticed.refl state).then_push _).silent
    next =>
      split
      next => exact ((Unnoticed.refl state).then_push _).silent
      next jfc found =>
        refine ⟨fun other => ?_, rfl, rfl, ?_⟩
        · by_cases same : other = id
          · subst same
            simp [found]
          · simp [AList.lookup_insert_ne same]
        · simp [noticesOf, Observation.notice]

theorem Silent.trans (first : Silent state changed) (second : Silent changed after) :
    Silent state after where
  present := fun id => (second.present id).trans (first.present id)
  armed := second.armed.trans first.armed
  mappings := second.mappings.trans first.mappings
  trace := second.trace.trans first.trace

theorem setJfc_silent {id : Nat} {old : Jfc} (found : state.jfcs.lookup id = some old)
    (new : Jfc) : Silent state (state.setJfc id new) := by
  refine ⟨fun other => ?_, rfl, rfl, rfl⟩
  by_cases same : other = id
  · subst same
    simp [found]
  · simp [AList.lookup_insert_ne same]

theorem moderate_silent {id : Nat} {old : Jfc} (found : state.jfcs.lookup id = some old)
    (ticket call : Nat) (jfc : Jfc) : Silent state (moderate state ticket id call jfc) := by
  unfold moderate
  split
  next => exact { setJfc_silent found _ with }
  next =>
    exact { setJfc_silent found _ with trace := by simp [noticesOf, Observation.notice] }

theorem cqeWritten_silent (config : Config) (state : State) (ticket id : Nat)
    (publication : Publication) (ok : Bool) :
    Silent state (cqeWritten config state ticket id publication ok) := by
  unfold cqeWritten
  split
  next => exact ((Unnoticed.refl state).then_push _).silent
  next jfc found =>
    split
    next =>
      split
      next => exact ((Unnoticed.refl state).then_push _).silent
      next => exact ((Unnoticed.refl state).then_push _).silent
      next left _ =>
        have settled := settleCqe_unnoticed left found
        split
        next =>
          have held : (settleCqe state id jfc left).jfcs.lookup id =
              some { jfc with cqeWritePending := left != 0 } := by
            simp [settleCqe]
          exact settled.silent.trans (moderate_silent held ticket publication.call _)
        next => exact (settled.then_push _).silent
    next =>
      split
      next => exact moderate_silent found ticket publication.call _
      next => exact { setJfc_silent found _ with }

/-- The write-back of a command after a change of one JFC. -/
theorem finish_signal (state : State) (command : Command) (status id : Nat) :
    (finishUbaseDescriptor state command status).signal id = state.signal id :=
  (finishUbaseDescriptor_unnoticed state command status).silent.signal id

theorem Applied.move (applied : Applied state after) (id : Nat) :
    Signal.Move false false (state.signal id) (after.signal id) := by
  cases applied with
  | issued issued =>
      exact .of_eq (issued.unnoticed.silent.signal id) ⟨rfl, rfl⟩
  | installedCeq command ceq =>
      rw [finish_signal]
      exact .kept ⟨rfl, rfl⟩
  | installedJfc command context jfc isCreate decoded =>
      rw [finish_signal]
      by_cases same : id = command.tag
      · subst same
        have moved : Signal.created (state.signal command.tag) = State.signal
            { state.setJfc command.tag jfc with
              generations := state.generations + 1
              armedJfcs := state.armedJfcs.erase command.tag
              jfcCqeDmaInFlight := state.jfcCqeDmaInFlight.erase command.tag
              jfcQueryContexts := state.jfcQueryContexts.insert command.tag (context.take 128)
              jfcCeqs := state.jfcCeqs.insert command.tag (word context 2 >>> 24) } command.tag := by
          simp [Signal.created, State.signal, State.armed]
        rw [← moved]
        exact .created ⟨rfl, rfl⟩
      · have kept : State.signal
            { state.setJfc command.tag jfc with
              generations := state.generations + 1
              armedJfcs := state.armedJfcs.erase command.tag
              jfcCqeDmaInFlight := state.jfcCqeDmaInFlight.erase command.tag
              jfcQueryContexts := state.jfcQueryContexts.insert command.tag (context.take 128)
              jfcCeqs := state.jfcCeqs.insert command.tag (word context 2 >>> 24) } id =
            state.signal id := by
          simp [State.signal, State.armed, AList.lookup_insert_ne same, AList.lookup_erase_ne same]
        exact .of_eq kept ⟨rfl, rfl⟩
  | modified command context jfc found =>
      rw [finish_signal, (setJfc_silent found _).signal]
      exact .kept ⟨rfl, rfl⟩

theorem Handled.move {command : Command} (handled : Handled config state command after)
    (id : Nat) : Signal.Move false false (state.signal id) (after.signal id) := by
  cases handled with
  | issued issued =>
      exact .of_eq (issued.unnoticed.silent.signal id) ⟨rfl, rfl⟩
  | creating | creatingCeq | deferredCeq | deferredJfc => exact .kept ⟨rfl, rfl⟩
  | erasedCeq idle =>
      rw [finish_signal]
      exact .kept ⟨rfl, rfl⟩
  | erasedJfc idle =>
      rw [finish_signal]
      by_cases same : id = command.tag
      · subst same
        have moved : Signal.erased (state.signal command.tag) =
            (eraseJfc config state command.tag).signal command.tag := by
          simp [Signal.erased, State.signal, State.armed, eraseJfc]
        rw [← moved]
        exact .erased ⟨rfl, rfl⟩
      · have kept : (eraseJfc config state command.tag).signal id = state.signal id := by
          simp [State.signal, State.armed, eraseJfc, AList.lookup_erase_ne same]
        exact .of_eq kept ⟨rfl, rfl⟩

theorem emitCompletionEvent_move (oneShot : config.oneShotJfcNotifications = true)
    {id : Nat} (sound : (state.signal id).Sound) (ticket own : Nat) :
    Signal.Move (own == id) false (state.signal id)
      ((emitCompletionEvent config state ticket own).signal id) := by
  unfold emitCompletionEvent
  simp only [oneShot, true_and, ↓reduceIte]
  split
  next unarmed =>
    have kept : (state.push [.releaseCompletionEventSlot ticket]).signal id = state.signal id :=
      ((Unnoticed.refl state).then_push _).silent.signal id
    rw [kept]
    by_cases same : own = id
    · subst same
      have spent : (state.signal own).notified = state.signal own := by
        have idle : (state.signal own).armed = false := unarmed
        simp [Signal.notified, idle]
      nth_rewrite 2 [← spent]
      exact .notified ⟨by simp, rfl⟩
    · exact .kept ⟨by simpa using same, rfl⟩
  next held =>
    have armed : state.armed own = true := by simpa [State.armed] using held
    by_cases same : own = id
    · subst same
      have mapped : (state.jfcCeqs.lookup own).isSome = true := sound.mapped (sound.present armed)
      obtain ⟨ceqId, mapping⟩ := Option.isSome_iff_exists.mp mapped
      rw [mapping]
      have moved : (state.signal own).notified = State.signal
          (({ state with
              armedJfcs := state.armedJfcs.insert own false
              completionEvents := state.completionEvents ++
                [(⟨ticket, own, ceqId⟩ : CompletionEvent)] }.emit
            [.enqueued own ceqId]).push [.processCompletionEvent]) own := by
        have now : (state.signal own).armed = true := armed
        rw [Signal.notified, if_pos now]
        simp [State.signal, State.armed, Observation.arms, Observation.notifies]
      rw [← moved]
      exact .notified ⟨by simp, rfl⟩
    · have kept (after : State) (table : after.armedJfcs = state.armedJfcs.insert own false)
          (jfcs : after.jfcs = state.jfcs) (mappings : after.jfcCeqs = state.jfcCeqs)
          (trace : after.trace = state.trace ∨
            ∃ ceqId, after.trace = state.trace ++ [.enqueued own ceqId]) :
          after.signal id = state.signal id := by
        apply Signal.ext
        · simp [State.signal, State.armed, table, AList.lookup_insert_ne (Ne.symm same)]
        · simp [State.signal, jfcs]
        · simp [State.signal, mappings]
        · rcases trace with trace | ⟨ceqId, trace⟩ <;>
            simp [State.signal, trace, Observation.arms]
        · rcases trace with trace | ⟨ceqId, trace⟩ <;>
            simp [State.signal, trace, Observation.notifies, same]
      split
      next =>
        refine .of_eq (kept _ ?_ ?_ ?_ (.inl ?_)) ⟨by simpa using same, rfl⟩ <;> rfl
      next ceqId _ =>
        refine .of_eq (kept _ ?_ ?_ ?_ (.inr ⟨ceqId, ?_⟩)) ⟨by simpa using same, rfl⟩ <;> rfl

theorem runTask_move (oneShot : config.oneShotJfcNotifications = true) {id : Nat} {task : Task}
    (sound : (state.signal id).Sound) (ran : runTask config state task = some after) :
    Signal.Move (task.notifies id) false (state.signal id) (after.signal id) := by
  by_cases other : task.unnoticed = true
  · refine .of_eq ((runTask_unnoticed other ran).silent.signal id) ⟨?_, rfl⟩
    cases task with
    | emitCompletionEvent => simp [Task.unnoticed] at other
    | _ => rfl
  cases task with
  | pumpTimers expired =>
      obtain rfl := Option.some.inj ran
      exact .of_eq ((pumpTimers_silent config state expired).signal id) ⟨rfl, rfl⟩
  | emitCompletionEvent ticket own =>
      obtain rfl := Option.some.inj ran
      exact emitCompletionEvent_move oneShot sound ticket own
  | maybeCompleteJfcDestroy =>
      obtain rfl := Option.some.inj ran
      unfold maybeCompleteJfcDestroy
      split
      next => exact .kept ⟨rfl, rfl⟩
      next command _ =>
        split
        next => exact .kept ⟨rfl, rfl⟩
        next =>
          have handled := handleUbaseMailbox_handled config
            { state with pendingJfcDestroy := none, drainingJfcId := none } command
          exact handled.move id
  | maybeCompleteEqDestroy =>
      obtain rfl := Option.some.inj ran
      unfold maybeCompleteEqDestroy
      split
      next => exact .kept ⟨rfl, rfl⟩
      next command _ =>
        split
        next => exact .kept ⟨rfl, rfl⟩
        next =>
          have handled := handleUbaseMailbox_handled config
            { state with pendingEqDestroy := none, drainingCeqId := none } command
          exact handled.move id
  | _ => simp [Task.unnoticed] at other

theorem jfcDoorbell_move (config : Config) (state : State) (value id : Nat) :
    Signal.Move false (state.arms config id (.jfcDoorbell value)) (state.signal id)
      ((jfcDoorbell config state value).signal id) := by
  unfold jfcDoorbell
  simp only
  split
  next accepted =>
    obtain ⟨enabled, arming, clean, exist⟩ := accepted
    by_cases same : (value >>> 32) &&& 0xfffff = id
    · rw [same] at exist ⊢
      have moved : (state.signal id).arm = State.signal
          ({ state with armedJfcs := state.armedJfcs.insert id true }.emit [.armed id]) id := by
        simp [Signal.arm, State.signal, State.armed, Observation.arms, Observation.notifies]
      rw [← moved]
      refine .armed ⟨rfl, ?_⟩ exist
      simpa [State.arms, enabled, clean, same, exist] using arming
    · have kept : State.signal
          ({ state with
              armedJfcs := state.armedJfcs.insert ((value >>> 32) &&& 0xfffff) true }.emit
            [.armed ((value >>> 32) &&& 0xfffff)]) id = state.signal id := by
        simp [State.signal, State.armed, Observation.arms, Observation.notifies, same,
          AList.lookup_insert_ne (Ne.symm same)]
      exact .of_eq kept ⟨rfl, by simp [State.arms, same]⟩
  next refused =>
    refine .kept ⟨rfl, ?_⟩
    by_contra accepted
    simp only [State.arms, Bool.not_eq_false, Bool.and_eq_true, bne_iff_ne, beq_iff_eq] at accepted
    obtain ⟨⟨⟨⟨enabled, arming⟩, clean⟩, own⟩, held⟩ := accepted
    exact refused ⟨enabled, arming, clean, by rwa [own]⟩

theorem runCallback_move (config : Config) (state : State) (callback : Callback) (id : Nat)
    (ok : Bool) (bytes : Bytes) :
    Signal.Move false false (state.signal id)
      ((runCallback config state ok bytes callback).signal id) := by
  have quiet {changed : State} (silent : Silent state changed) :
      Signal.Move false false (state.signal id) (changed.signal id) := by
    exact .of_eq (silent.signal id) ⟨rfl, rfl⟩
  cases callback with
  | consumerRead ticket own publication =>
      exact quiet (publish_unnoticed config state ticket own publication _).silent
  | cqeWritten ticket own publication =>
      exact quiet (cqeWritten_silent config state ticket own publication ok)
  | ceqeWritten ticket ceqId vector => exact quiet (ceqeWritten_unnoticed state ticket ceqId ok).silent
  | interruptRaised ticket => exact .kept ⟨rfl, rfl⟩
  | contextRead command => exact (contextRead_applied state command ok bytes).move id
  | queryRead command => exact quiet (queryRead_unnoticed state command ok bytes).silent
  | queryWritten command => exact (queryWritten_applied state command ok).move id
  | descriptorWritten => exact .kept ⟨rfl, rfl⟩

/-- Every step is a move of the JFC. -/
theorem step_move (oneShot : config.oneShotJfcNotifications = true) {event : Event} {id : Nat}
    (sound : (before.signal id).Sound) (taken : step config before event = some after) :
    Signal.Move (before.notifies id event) (before.arms config id event) (before.signal id)
      (after.signal id) := by
  rcases step_kinds taken with ⟨task, rest, rfl, top, ran⟩ | ⟨expired, rest, top, _, rfl⟩ | acted
  · have point : before.notifies id .run = task.notifies id := by simp [State.notifies, top]
    rw [point]
    have entered : ((before.withStack rest).signal id).Sound := sound
    have moved : Signal.Move (task.notifies id) false ((before.withStack rest).signal id)
        (after.signal id) := runTask_move oneShot entered ran
    exact moved
  · cases event with
    | run => simp [State.notifies, top, Task.notifies]; exact .kept ⟨rfl, rfl⟩
    | jfcDoorbell => simp [step, top, State.atBoundary] at taken
    | _ => exact .kept ⟨rfl, rfl⟩
  · cases event with
    | run | beginPass => simp [environment] at acted
    | fire index ok bytes =>
        simp only [environment] at acted
        split at acted
        next => simp at acted
        next callback held =>
          obtain rfl := Option.some.inj acted
          have moved := runCallback_move config
            (before.withOutstanding (before.outstanding.eraseIdx index)) callback id ok bytes
          exact moved
    | writeCqe own cqe =>
        obtain rfl := Option.some.inj acted
        exact .of_eq ((writeCqe_unnoticed before own cqe).silent.signal id) ⟨rfl, rfl⟩
    | mailbox command =>
        simp only [environment] at acted
        split at acted
        next => simp at acted
        next =>
          obtain rfl := Option.some.inj acted
          have handled := handleUbaseMailbox_handled config { before with ubaseBusy := true } command
          exact handled.move id
    | ceqDoorbell value =>
        obtain rfl := Option.some.inj acted
        exact .of_eq ((ceqDoorbell_unnoticed before value).silent.signal id) ⟨rfl, rfl⟩
    | jfcDoorbell value =>
        obtain rfl := Option.some.inj acted
        exact jfcDoorbell_move config before value id
    | advanceTime now =>
        simp only [environment] at acted
        split at acted <;>
          obtain rfl := Option.some.inj acted <;>
          exact .kept ⟨rfl, rfl⟩

end Steps

/-! ## Checkpoints -/

/-- The part of `IsQuiescent` that the engine decides. -/
def State.quiescent (state : State) : Bool :=
  state.completionEventSlotsInUse == 0 &&
    state.ceqs.entries.all (fun entry => !entry.2.consumerPending && !entry.2.creditFault) &&
    !state.ubaseBusy && state.pendingJfcDestroy.isNone && state.pendingEqDestroy.isNone &&
    state.jfcPublications.entries.isEmpty && !state.completionEventBusy &&
    state.completionEvents.isEmpty &&
    state.jfcs.entries.all (fun entry => entry.2.pendingCompletions == 0)

/-- `LoadState` on what `SaveState` wrote.  A file of version 3 has no arms. -/
def State.restored (state : State) (version : Nat) : State where
  jfcs := state.jfcs
  jfcCeqs := state.jfcCeqs
  jfcQueryContexts := state.jfcQueryContexts
  ceqs := state.ceqs
  armedJfcs := if version = 4 then state.armedJfcs else ∅
  calls := state.calls
  tickets := state.tickets
  generations := state.generations
  trace := state.trace

/-- `RebaseTime` -/
def State.rebased (state : State) (now : Nat) : State :=
  { state with
    now := now
    jfcs := mapTable (fun jfc => { jfc with moderationDeadline := 0 }) state.jfcs }

inductive Life where
  | own (event : Event)
  | restore (version : Nat)
  | rebase (now : Nat)
  deriving DecidableEq, Repr

def live (config : Config) (state : State) : Life → Option State
  | .own event => step config state event
  | .restore version =>
      if state.quiescent ∧ (version = 3 ∨ version = 4) then some (state.restored version) else none
  | .rebase now => some (if state.quiescent then state.rebased now else state)


/-- The step is a notification point of the JFC. -/
def Life.notifies (state : State) (id : Nat) : Life → Bool
  | .own event => state.notifies id event
  | .restore _ | .rebase _ => false

/-- The step is an arm doorbell of the JFC that is accepted. -/
def Life.arms (config : Config) (state : State) (id : Nat) : Life → Bool
  | .own event => state.arms config id event
  | .restore _ | .rebase _ => false

section Lives

variable {config : Config} {before after : State}

theorem restored_move (state : State) (version id : Nat) :
    Signal.Move false false (state.signal id) ((state.restored version).signal id) := by
  by_cases kept : version = 4
  · have same : (state.restored version).signal id = state.signal id := by
      simp [State.restored, State.signal, State.armed, kept]
    exact .of_eq same ⟨rfl, rfl⟩
  · have fewer : (state.restored version).signal id = { state.signal id with armed := false } := by
      simp [State.restored, State.signal, State.armed, kept]
    rw [fewer]
    exact .dropped ⟨rfl, rfl⟩

theorem rebased_signal (state : State) (now id : Nat) :
    (state.rebased now).signal id = state.signal id := by
  simp [State.rebased, State.signal, State.armed]

theorem live_move (oneShot : config.oneShotJfcNotifications = true) {life : Life} {id : Nat}
    (sound : (before.signal id).Sound) (taken : live config before life = some after) :
    Signal.Move (life.notifies before id) (life.arms config before id) (before.signal id)
      (after.signal id) := by
  cases life with
  | own event => exact step_move oneShot sound taken
  | restore version =>
      simp only [live, Option.ite_none_right_eq_some, Option.some.injEq] at taken
      obtain ⟨_, rfl⟩ := taken
      exact restored_move before version id
  | rebase now =>
      obtain rfl := Option.some.inj taken
      split
      next => exact .of_eq (rebased_signal before now id) ⟨rfl, rfl⟩
      next => exact .kept ⟨rfl, rfl⟩

theorem sound_of_lives (oneShot : config.oneShotJfcNotifications = true) {state final : State}
    {id : Nat} (sound : (state.signal id).Sound)
    (reached : Reaches (live config) always state final) : (final.signal id).Sound :=
  reached.induction_on (fun final => (final.signal id).Sound) sound
    fun _ _ _ _ known taken _ => (live_move oneShot known taken).sound known

/-- Over any part of a life the events are covered by the arms, the first of which may be old. -/
theorem credit_of_lives (oneShot : config.oneShotJfcNotifications = true) {state final : State}
    {id : Nat} (sound : (state.signal id).Sound)
    (reached : Reaches (live config) always state final) :
    (final.signal id).events + (final.armed id).toNat + (state.signal id).arms ≤
      (state.signal id).events + (state.armed id).toNat + (final.signal id).arms := by
  refine reached.induction_on (fun final =>
    (final.signal id).events + (final.armed id).toNat + (state.signal id).arms ≤
      (state.signal id).events + (state.armed id).toNat + (final.signal id).arms) (Nat.le_refl _)
    fun before life after run known taken _ => ?_
  have credit := (live_move oneShot (sound_of_lives oneShot sound run) taken).credit
  change (after.signal id).events + (after.armed id).toNat + (before.signal id).arms ≤
    (before.signal id).events + (before.armed id).toNat + (after.signal id).arms at credit
  omega

end Lives

/-- In every life, a step enqueues an event of a JFC exactly when it is a notification point
and the JFC is armed, and then it is no longer armed; a JFC that comes into being is not
armed, and from then on it gets at most one event for each accepted arm doorbell. -/
theorem one_shot_accounting {config : Config} (oneShot : config.oneShotJfcNotifications = true)
    {before : State} (reached : Reaches (live config) always .initial before) {life : Life}
    {after : State} (taken : live config before life = some after) (id : Nat) :
    (after.signal id).events =
        (before.signal id).events + (life.notifies before id && before.armed id).toNat ∧
      (life.notifies before id = true → after.armed id = false) ∧
      (after.signal id).arms = (before.signal id).arms + (life.arms config before id).toNat ∧
      (before.jfcs.lookup id = none → before.armed id = false) ∧
      (before.jfcs.lookup id = none → (after.jfcs.lookup id).isSome →
        after.armed id = false ∧ ∀ final, Reaches (live config) always after final →
          (final.signal id).events + (after.signal id).arms ≤
            (after.signal id).events + (final.signal id).arms) := by
  have start : (State.initial.signal id).Sound :=
    ⟨by simp [State.signal, State.armed, State.initial], by simp [State.signal, State.initial]⟩
  have sound := sound_of_lives oneShot start reached
  have move := live_move oneShot sound taken
  refine ⟨move.events.1, move.events.2, move.arms, fun absent => ?_, fun absent present => ?_⟩
  · by_contra armed
    have held := sound.present (by simpa [State.signal] using armed)
    simp [State.signal, absent] at held
  · have unarmed : after.armed id = false :=
      move.unarmed (by simp [State.signal, absent]) present
    refine ⟨unarmed, fun final continued => ?_⟩
    have credit := credit_of_lives oneShot (move.sound sound) continued
    rw [unarmed, Bool.toNat_false] at credit
    omega

def Config.oneShot : Config := { Config.small false with oneShotJfcNotifications := true }

/-- JFC 7 comes into being and is armed. -/
def armFirst : List Event :=
  create .createJfc 7 jfcImage ++ [.jfcDoorbell ((7 <<< 32) + (1 <<< 27))]

/-- The first CQE of JFC 7 up to its notification. -/
def notifyFirst : List Event :=
  [.writeCqe 7 .small] ++ pass 7 ++ [.fire 0 true (store32 0), .run, .fire 0 true []]

def armedAcrossCheckpoint : List Life :=
  armFirst.map .own ++ [.restore 4, .rebase 5] ++ notifyFirst.map .own

/-- The CQE is notified. -/
theorem one_shot_accounting_across_checkpoint :
    ∃ before after, Reaches (live .oneShot) always .initial before ∧
      live .oneShot before (.own .run) = some after ∧ (after.signal 7).events = 1 ∧
      after.armed 7 = false := by
  obtain ⟨before, reached, seen⟩ := exists_of_execute
    (show (execute (live .oneShot) always armedAcrossCheckpoint .initial).map
      (fun state => (state.signal 7, state.notifies 7 .run,
        (live .oneShot state (.own .run)).isSome)) =
        some (⟨true, true, true, 1, 0⟩, true, true) by decide +kernel)
  simp only [Prod.mk.injEq] at seen
  obtain ⟨shown, point, continues⟩ := seen
  obtain ⟨after, taken⟩ := Option.isSome_iff_exists.mp continues
  have armed : before.armed 7 = true := congrArg Signal.armed shown
  have accounting := one_shot_accounting (by decide) reached taken 7
  refine ⟨before, after, reached, taken, ?_, accounting.2.1 point⟩
  rw [accounting.1, shown]
  simp [Life.notifies, point, armed]

end Udma.Cq
