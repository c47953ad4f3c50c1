import Udma.Cq.Notices

/-!
# Moderation

A JFC that holds back a notification has its timer running, so that no CQE is stranded.
The completion of a CQE and the pump keep to this.  A modify command replaces the count and
the period without a look at the CQEs that wait.
-/

namespace Udma.Cq

open Udma.Abi Udma.Arithmetic Udma.Collections Udma.Transition

/-- A notification that is held back comes: by the next CQE or by the timer. -/
structure Timer.Sound (timer : Timer) : Prop where
  armed : 0 < timer.pending → 0 < timer.period → timer.deadline ≠ 0
  below : timer.pending < timer.count
  awaited : timer.deadline ≠ 0 → 0 < timer.pending

/-- Every JFC has a sound timer. -/
def State.Moderated (state : State) : Prop :=
  ∀ id timer, state.timer id = some timer → timer.Sound

/-- The deadline of a timer that starts now. -/
def Timer.deadlineFrom (timer : Timer) (now : Nat) : Nat :=
  (now + periodUs.getD timer.period 0 * 1000000) % 2 ^ 64

/-- One more CQE is visible. -/
def Timer.note (timer : Timer) (now : Nat) : Timer :=
  if timer.pending + 1 < timer.count then
    { timer with
      pending := timer.pending + 1
      deadline := if timer.deadline = 0 ∧ timer.period ≠ 0 then timer.deadlineFrom now
        else timer.deadline }
  else { timer with pending := 0, deadline := 0 }

/-- The sum of time and period that makes a deadline overflows to zero, which stands for no
deadline. -/
def Timer.Wraps (timer : Timer) (now : Nat) : Prop :=
  timer.pending + 1 < timer.count ∧ timer.deadline = 0 ∧ timer.period ≠ 0 ∧
    timer.deadlineFrom now = 0

instance (timer : Timer) (now : Nat) : Decidable (timer.Wraps now) :=
  inferInstanceAs (Decidable (_ ∧ _ ∧ _ ∧ _))

theorem Timer.Sound.note_iff {timer : Timer} (sound : timer.Sound) (now : Nat) :
    (timer.note now).Sound ↔ ¬ timer.Wraps now := by
  have below := sound.below
  unfold Timer.note
  split
  next more =>
    constructor
    · rintro next ⟨_, idle, timed, wrapped⟩
      refine next.armed (Nat.succ_pos _) (Nat.pos_of_ne_zero timed) ?_
      simp [idle, timed, wrapped]
    · intro straight
      refine ⟨fun _ timed => ?_, more, fun _ => Nat.succ_pos _⟩
      dsimp only at timed ⊢
      split
      next starts => exact fun wrapped => straight ⟨more, starts.1, starts.2, wrapped⟩
      next runs => exact fun idle => runs ⟨idle, Nat.ne_of_gt timed⟩
  next last =>
    refine iff_of_true ⟨?_, ?_, ?_⟩ fun wraps => last wraps.1
    · exact fun waiting => absurd waiting (Nat.lt_irrefl _)
    · exact Nat.lt_of_le_of_lt (Nat.zero_le _) below
    · exact fun running => absurd rfl running

/-- The timer after a modify command. -/
def Timer.modify (timer : Timer) (context : Bytes) : Timer :=
  { timer with
    count := if word context 36 &&& (0x3ff <<< 22) = 0 then max 1 (word context 4 >>> 22)
      else timer.count
    period := if word context 37 &&& (7 <<< 22) = 0 then (word context 5 >>> 22) &&& 7
      else timer.period }

theorem Jfc.modify_timer (jfc : Jfc) (context : Bytes) :
    (jfc.modify context).timer = jfc.timer.modify context := rfl

/-- A modify command that suits the CQEs that wait: a new count lies above their number, and
a period in place of none finds no CQE waiting, or a timer that still runs. -/
def Timer.Suits (timer : Timer) (context : Bytes) : Prop :=
  (word context 36 &&& (0x3ff <<< 22) = 0 → timer.pending < max 1 (word context 4 >>> 22)) ∧
    (word context 37 &&& (7 <<< 22) = 0 → (word context 5 >>> 22) &&& 7 ≠ 0 →
      timer.period = 0 → timer.pending = 0 ∨ timer.deadline ≠ 0)

instance (timer : Timer) (context : Bytes) : Decidable (timer.Suits context) :=
  inferInstanceAs (Decidable ((_ → _) ∧ (_ → _ → _ → _)))

theorem Timer.Sound.modify_iff {timer : Timer} (sound : timer.Sound) (context : Bytes) :
    (timer.modify context).Sound ↔ timer.Suits context := by
  unfold Timer.modify
  constructor
  · intro next
    refine ⟨fun counted => ?_, fun timed period _ => ?_⟩
    · have below := next.below
      dsimp only at below
      rwa [if_pos counted] at below
    · rcases Nat.eq_zero_or_pos timer.pending with none | waiting
      · exact .inl none
      · refine .inr (next.armed waiting ?_)
        dsimp only
        rw [if_pos timed]
        exact Nat.pos_of_ne_zero period
  · rintro ⟨counts, periods⟩
    refine ⟨fun waiting period => ?_, ?_, sound.awaited⟩
    · rcases Nat.eq_zero_or_pos timer.period with none | timed
      · dsimp only at waiting period ⊢
        split at period
        next selected =>
          exact (periods selected (Nat.ne_of_gt period) none).resolve_left (Nat.ne_of_gt waiting)
        next => omega
      · exact sound.armed waiting timed
    · dsimp only
      split
      next selected => exact counts selected
      next => exact sound.below

/-! ## Steps -/

section Steps

variable {config : Config} {state before after : State}

theorem Unnoticed.moderated (unnoticed : Unnoticed state after) (moderated : state.Moderated) :
    after.Moderated := by
  intro id timer found
  rw [unnoticed.timer] at found
  exact moderated id timer found

/-- A change of one timer. -/
theorem State.Moderated.update_iff {id : Nat} {timer : Timer} (moderated : state.Moderated)
    (changed : after.timer = Function.update state.timer id (some timer)) :
    after.Moderated ↔ timer.Sound := by
  constructor
  · intro next
    exact next id timer (by rw [changed, Function.update_self])
  · intro sound other found held
    rw [changed] at held
    by_cases same : other = id
    · subst same
      rw [Function.update_self, Option.some.injEq] at held
      exact held ▸ sound
    · rw [Function.update_of_ne same] at held
      exact moderated other found held

theorem State.Moderated.fewer (moderated : state.Moderated)
    (kept : ∀ id timer, after.timer id = some timer → state.timer id = some timer) :
    after.Moderated := fun id timer found => moderated id timer (kept id timer found)

theorem Timer.Sound.clear {timer : Timer} (sound : timer.Sound) :
    Timer.Sound { timer with pending := 0, deadline := 0 } where
  armed := fun waiting => absurd waiting (Nat.lt_irrefl _)
  below := Nat.lt_of_le_of_lt (Nat.zero_le _) sound.below
  awaited := fun running => absurd rfl running

/-- The end of a good CQE write counts the CQE. -/
theorem moderate_timer (state : State) (ticket id call : Nat) (jfc : Jfc) :
    (moderate state ticket id call jfc).timer =
      Function.update state.timer id (some (jfc.timer.note state.now)) := by
  unfold moderate
  split
  next more =>
    have same : ({ jfc with pendingCompletions := jfc.pendingCompletions + 1 }.armModeration
        state.now).timer = jfc.timer.note state.now := by
      unfold Timer.note
      rw [if_pos (show jfc.timer.pending + 1 < jfc.timer.count from more)]
      unfold Jfc.armModeration
      dsimp only
      split
      next starts =>
        split
        next => rfl
        next runs => exact absurd starts runs
      next runs =>
        split
        next starts => exact absurd starts runs
        next => rfl
    rw [← same]
    exact State.timer_setJfc state id _
  next last =>
    have same : ({ jfc with pendingCompletions := 0, moderationDeadline := 0 } : Jfc).timer =
        jfc.timer.note state.now := by
      unfold Timer.note
      rw [if_neg (show ¬ jfc.timer.pending + 1 < jfc.timer.count from last)]
      rfl
    rw [← same]
    exact State.timer_setJfc state id _

/-- The CQE write of a JFC counts when its slot is still booked. -/
def State.counts (config : Config) (state : State) (id : Nat) (ok : Bool) : Bool :=
  ok && (!config.pipelinedCompletionDma || (state.jfcCqeDmaInFlight.lookup id).getD 0 != 0)

theorem cqeWritten_moderated (config : Config) (moderated : state.Moderated) (ticket id : Nat)
    (publication : Publication) (ok : Bool) :
    (cqeWritten config state ticket id publication ok).Moderated ↔
      (state.counts config id ok = true →
        ∀ timer, state.timer id = some timer → ¬ timer.Wraps state.now) := by
  unfold cqeWritten
  split
  next missing =>
    have none : state.timer id = none := by simp [State.timer, missing]
    exact iff_of_true (((Unnoticed.refl state).then_push _).moderated moderated) (by simp [none])
  next jfc found =>
    have own : state.timer id = some jfc.timer := by simp [State.timer, found]
    have sound := moderated id _ own
    split
    next pipelined =>
      split
      next none =>
        exact iff_of_true (((Unnoticed.refl state).then_push _).moderated moderated)
          (by simp [State.counts, pipelined, none])
      next zero =>
        exact iff_of_true (((Unnoticed.refl state).then_push _).moderated moderated)
          (by simp [State.counts, pipelined, zero])
      next left booked =>
        have settled := settleCqe_unnoticed left found
        split
        next good =>
          have changed := moderate_timer (settleCqe state id jfc left) ticket id publication.call
            { jfc with cqeWritePending := left != 0 }
          rw [settled.timer] at changed
          rw [moderated.update_iff changed]
          refine Iff.trans (sound.note_iff state.now) ?_
          simp [State.counts, good, booked, own]
        next bad =>
          exact iff_of_true ((settled.then_push _).moderated moderated) (by simp [State.counts, bad])
    next serial =>
      split
      next good =>
        have changed := moderate_timer state ticket id publication.call
          { jfc with cqeWritePending := false, producer := jfc.producer + 1 }
        rw [moderated.update_iff changed]
        refine Iff.trans (sound.note_iff state.now) ?_
        simp [State.counts, good, serial, own]
      next bad =>
        have kept : Unnoticed state (state.setJfc id { jfc with cqeWritePending := false }) :=
          { Unnoticed.refl state with timer := State.timer_setJfc_same found rfl }
        exact iff_of_true ((kept.then_push _).moderated moderated) (by simp [State.counts, bad])

theorem pumpTimers_moderated (config : Config) (moderated : state.Moderated)
    (expired : List Nat) : (pumpTimers config state expired).Moderated := by
  unfold pumpTimers pumpTimer
  split
  next => exact ((Unnoticed.refl state).then_push _).moderated moderated
  next id rest =>
    split
    next => exact ((Unnoticed.refl state).then_push _).moderated moderated
    next =>
      split
      next => exact ((Unnoticed.refl state).then_push _).moderated moderated
      next jfc found =>
        have own : state.timer id = some jfc.timer := by simp [State.timer, found]
        exact (moderated.update_iff (State.timer_setJfc state id _)).mpr (moderated id _ own).clear

theorem emitCompletionEvent_timer (config : Config) (state : State) (ticket id : Nat) :
    (emitCompletionEvent config state ticket id).timer = state.timer := by
  unfold emitCompletionEvent
  simp only
  split
  next => rfl
  next =>
    split
    next => split <;> rfl
    next => split <;> rfl

theorem eraseJfc_timer {id other : Nat} {timer : Timer}
    (found : (eraseJfc config state id).timer other = some timer) :
    state.timer other = some timer := by
  by_cases same : other = id
  · subst same
    simp [State.timer, eraseJfc] at found
  · simpa [State.timer, eraseJfc, AList.lookup_erase_ne same] using found

theorem Handled.moderated {command : Command} (handled : Handled config state command after)
    (moderated : state.Moderated) : after.Moderated := by
  cases handled with
  | issued issued => exact issued.unnoticed.moderated moderated
  | creating | creatingCeq => exact ((Unnoticed.refl state).then_call _).moderated moderated
  | deferredCeq | deferredJfc => exact moderated
  | erasedCeq idle =>
      refine (finishUbaseDescriptor_unnoticed _ command 0).moderated ?_
      exact moderated
  | erasedJfc idle =>
      refine (finishUbaseDescriptor_unnoticed _ command 0).moderated ?_
      exact moderated.fewer fun _ _ found => eraseJfc_timer found

theorem decodeJfc_timer {context : Bytes} {generation : Nat} {jfc : Jfc}
    (decoded : decodeJfc context generation = some jfc) : jfc.timer.Sound := by
  unfold decodeJfc at decoded
  simp only at decoded
  split at decoded
  next => simp at decoded
  next =>
    obtain rfl := Option.some.inj decoded
    refine ⟨fun waiting => absurd waiting (Nat.lt_irrefl _), ?_, fun running => absurd rfl running⟩
    exact Nat.lt_of_lt_of_le Nat.zero_lt_one (Nat.le_max_left _ _)

/-- The callback of the context read: only a modify command can leave a timer unsound. -/
theorem contextRead_moderated (moderated : state.Moderated) (command : Command) (ok : Bool)
    (bytes : Bytes) : (contextRead state command ok bytes).Moderated ↔
      (command.opcode = .modifyJfc → ok = true → bytes.length = 256 →
        ∀ timer, state.timer command.tag = some timer → timer.Suits bytes) := by
  have finished (changed : State) (status : Nat) (same : changed.Moderated) :
      (finishUbaseDescriptor changed command status).Moderated :=
    (finishUbaseDescriptor_unnoticed changed command status).moderated same
  unfold contextRead
  split
  next arrived =>
    simp only [Bool.and_eq_true, beq_iff_eq] at arrived
    obtain ⟨good, whole⟩ := arrived
    unfold applyUbaseMailbox
    split
    next opcode =>
      refine iff_of_true ?_ (by simp [opcode])
      split
      next => exact finished _ _ moderated
      next => exact finished _ _ moderated
    next opcode =>
      refine iff_of_true ?_ (by simp [opcode])
      split
      next => exact finished _ _ moderated
      next jfc decoded =>
        refine finished _ _ ?_
        exact (moderated.update_iff (State.timer_setJfc state command.tag jfc)).mpr
          (decodeJfc_timer decoded)
    next opcode =>
      split
      next missing =>
        have none : state.timer command.tag = none := by simp [State.timer, missing]
        exact iff_of_true (finished _ _ moderated) (by simp [none])
      next jfc found =>
        have own : state.timer command.tag = some jfc.timer := by simp [State.timer, found]
        have changed : (finishUbaseDescriptor (state.setJfc command.tag (jfc.modify bytes)) command
            0).timer = Function.update state.timer command.tag (some (jfc.timer.modify bytes)) := by
          rw [(finishUbaseDescriptor_unnoticed _ command 0).timer, ← Jfc.modify_timer]
          exact State.timer_setJfc state command.tag _
        rw [moderated.update_iff changed, (moderated _ _ own).modify_iff]
        rw [opcode] at whole
        simp [opcode, good, own, show bytes.length = 256 from whole]
    next opcode => exact iff_of_true (finished _ _ moderated) (by simp [opcode])
    next opcode => exact iff_of_true (finished _ _ moderated) (by simp [opcode])
    next opcode => exact iff_of_true (finished _ _ moderated) (by simp [opcode])
  next failed =>
    refine iff_of_true (finished _ _ moderated) fun isModify good whole => ?_
    simp [isModify, Opcode.contextBytes, good, whole] at failed

theorem queryWritten_moderated (moderated : state.Moderated) {command : Command}
    (query : command.opcode = .queryJfc) (ok : Bool) :
    (queryWritten state command ok).Moderated := by
  have finished (status : Nat) : (finishUbaseDescriptor state command status).Moderated :=
    (finishUbaseDescriptor_unnoticed state command status).moderated moderated
  unfold queryWritten
  split
  next =>
    simp only [applyUbaseMailbox, query]
    exact finished 0
  next => exact finished 5

/-! ## Query callbacks belong to query commands -/

def State.Asked (state : State) : Prop :=
  ∀ command, (.queryRead command ∈ state.outstanding ∨ .queryWritten command ∈ state.outstanding) →
    command.opcode = .queryJfc

theorem State.Asked.then_call (asked : state.Asked) {callback : Callback}
    (own : ∀ command, callback = .queryRead command ∨ callback = .queryWritten command →
      command.opcode = .queryJfc) : (state.call callback).Asked := by
  intro command held
  simp only [State.call_outstanding, List.mem_append, List.mem_singleton] at held
  rcases held with (earlier | new) | (earlier | new)
  · exact asked command (.inl earlier)
  · exact own command (.inl new.symm)
  · exact asked command (.inr earlier)
  · exact own command (.inr new.symm)

theorem State.Asked.of_paperwork (asked : state.Asked) (paperwork : Paperwork state after) :
    after.Asked := by
  have listed {callback : Callback} (mailbox : callback.mailbox = true)
      (held : callback ∈ after.outstanding) : callback ∈ state.outstanding := by
    have own : callback ∈ after.outstanding.filter Callback.mailbox :=
      List.mem_filter.mpr ⟨held, mailbox⟩
    rw [paperwork.calls] at own
    exact List.mem_of_mem_filter own
  exact fun command held => asked command (held.imp (listed rfl) (listed rfl))

theorem State.Asked.finish (asked : state.Asked) (command : Command) (status : Nat) :
    (finishUbaseDescriptor state command status).Asked := by
  have noted : (state.emit [.writeBack command status]).Asked := asked
  exact noted.then_call (by simp)

theorem applyUbaseMailbox_asked (asked : state.Asked) (command : Command) (context : Bytes) :
    (applyUbaseMailbox state command context).Asked := by
  unfold applyUbaseMailbox
  split
  next =>
    split
    next => exact asked.finish command 22
    next =>
      apply State.Asked.finish
      exact asked
  next =>
    split
    next => exact asked.finish command 22
    next =>
      apply State.Asked.finish
      exact asked
  next =>
    split
    next => exact asked.finish command 2
    next =>
      apply State.Asked.finish
      exact asked
  all_goals exact asked.finish command 0

theorem handleUbaseMailbox_asked (asked : state.Asked) (command : Command) :
    (handleUbaseMailbox config state command).Asked := by
  unfold handleUbaseMailbox
  split
  next =>
    split
    next => exact asked
    next =>
      apply applyUbaseMailbox_asked
      exact asked
  next =>
    split
    next => exact asked.finish command 16
    next =>
      split
      next => exact asked.finish command 22
      next => exact asked.then_call (by simp)
  next =>
    split
    next => exact asked
    next =>
      apply applyUbaseMailbox_asked
      exact asked
  next =>
    split
    next => exact asked.finish command 22
    next =>
      split
      next => exact asked.finish command 17
      next => exact asked.then_call (by simp)
  next =>
    split
    next => exact asked.finish command 22
    next => exact asked.then_call (by simp)
  next query =>
    split
    next => exact asked.finish command 22
    next =>
      split
      next => exact asked.finish command 2
      next =>
        split
        next => exact asked.then_call (by simp [query])
        next => exact asked.then_call (by simp [query])

theorem runCallback_asked {callback : Callback} {index : Nat} (asked : state.Asked)
    (held : state.outstanding[index]? = some callback) (ok : Bool) (bytes : Bytes) :
    (runCallback config (state.withOutstanding (state.outstanding.eraseIdx index)) ok bytes
      callback).Asked := by
  have fewer : (state.withOutstanding (state.outstanding.eraseIdx index)).Asked :=
    fun command listed => asked command
      (listed.imp (List.mem_of_mem_eraseIdx) (List.mem_of_mem_eraseIdx))
  cases callback with
  | consumerRead ticket id publication =>
      exact fewer.of_paperwork (publish_paperwork config _ ticket id publication _)
  | cqeWritten ticket id publication =>
      exact fewer.of_paperwork (cqeWritten_paperwork config _ ticket id publication ok)
  | ceqeWritten ticket ceqId vector =>
      exact fewer.of_paperwork (ceqeWritten_aside _ ticket ceqId ok).paperwork
  | interruptRaised ticket => exact fewer
  | contextRead command =>
      simp only [runCallback, contextRead]
      split
      next => exact applyUbaseMailbox_asked fewer command bytes
      next => exact fewer.finish command 5
  | queryRead command =>
      have query := asked command (.inl (List.mem_of_getElem? held))
      rcases queryRead_cases (state.withOutstanding (state.outstanding.eraseIdx index)) command ok
        bytes with same | ⟨jfc, _, _, _, same⟩
      · rw [runCallback, same]
        exact fewer.finish command 5
      · rw [runCallback, same]
        refine State.Asked.then_call ?_ (by simp [query])
        exact fewer
  | queryWritten command =>
      simp only [runCallback, queryWritten]
      split
      next => exact applyUbaseMailbox_asked fewer command []
      next => exact fewer.finish command 5
  | descriptorWritten => exact fewer

theorem runTask_asked {task : Task} (asked : state.Asked)
    (ran : runTask config state task = some after) : after.Asked := by
  by_cases commands : task.commands = false
  · exact asked.of_paperwork (runTask_paperwork commands ran)
  cases task with
  | maybeCompleteJfcDestroy =>
      obtain rfl := Option.some.inj ran
      unfold maybeCompleteJfcDestroy
      split
      next => exact asked
      next command _ =>
        split
        next => exact asked
        next =>
          apply handleUbaseMailbox_asked
          exact asked
  | maybeCompleteEqDestroy =>
      obtain rfl := Option.some.inj ran
      unfold maybeCompleteEqDestroy
      split
      next => exact asked
      next command _ =>
        split
        next => exact asked
        next =>
          apply handleUbaseMailbox_asked
          exact asked
  | _ => simp [Task.commands] at commands

theorem step_asked {event : Event} (asked : before.Asked)
    (taken : step config before event = some after) : after.Asked := by
  rcases step_cases taken with ⟨task, rest, _, ran⟩ | ⟨expired, rest, _, _, rfl⟩ | acted
  · have entered : (before.withStack rest).Asked := asked
    exact runTask_asked entered ran
  · exact asked
  · cases event with
    | run | beginPass => simp [environment] at acted
    | fire index ok bytes =>
        simp only [environment] at acted
        split at acted
        next => simp at acted
        next callback held =>
          obtain rfl := Option.some.inj acted
          exact runCallback_asked asked held ok bytes
    | writeCqe id cqe =>
        obtain rfl := Option.some.inj acted
        exact asked.of_paperwork (writeCqe_paperwork before id cqe)
    | mailbox command =>
        simp only [environment] at acted
        split at acted
        next => simp at acted
        next =>
          obtain rfl := Option.some.inj acted
          apply handleUbaseMailbox_asked
          exact asked
    | ceqDoorbell value =>
        obtain rfl := Option.some.inj acted
        exact asked.of_paperwork (ceqDoorbell_aside before value).paperwork
    | jfcDoorbell value =>
        obtain rfl := Option.some.inj acted
        exact asked.of_paperwork (jfcDoorbell_aside config before value).paperwork
    | advanceTime now =>
        simp only [environment] at acted
        split at acted <;>
          obtain rfl := Option.some.inj acted <;>
          exact asked

/-! ## When a step keeps the timers sound -/

/-- A modify command suits the CQEs that wait, and no deadline overflows to zero. -/
def Callback.Suits (config : Config) (before : State) (ok : Bool) (bytes : Bytes) :
    Callback → Prop
  | .contextRead command =>
      command.opcode = .modifyJfc → ok = true → bytes.length = 256 →
        ∀ timer ∈ before.timer command.tag, timer.Suits bytes
  | .cqeWritten _ id _ =>
      before.counts config id ok = true → ∀ timer ∈ before.timer id, ¬ timer.Wraps before.now
  | _ => True

instance (before : State) (ok : Bool) (bytes : Bytes) (callback : Callback) :
    Decidable (callback.Suits config before ok bytes) :=
  match callback with
  | .contextRead _ => inferInstanceAs (Decidable (_ → _ → _ → ∀ timer ∈ before.timer _, _))
  | .cqeWritten _ _ _ => inferInstanceAs (Decidable (_ → ∀ timer ∈ before.timer _, _))
  | .consumerRead _ _ _ | .ceqeWritten _ _ _ | .interruptRaised _ | .queryRead _
  | .queryWritten _ | .descriptorWritten => .isTrue trivial

def Suitable (config : Config) (before : State) (event : Event) (_after : State) : Prop :=
  match event with
  | .fire index ok bytes =>
      ∀ callback ∈ before.outstanding[index]?, callback.Suits config before ok bytes
  | _ => True

instance (before : State) (event : Event) (after : State) :
    Decidable (Suitable config before event after) :=
  match event with
  | .fire index _ _ => inferInstanceAs (Decidable (∀ callback ∈ before.outstanding[index]?, _))
  | .run | .beginPass _ | .writeCqe _ _ | .mailbox _ | .ceqDoorbell _ | .jfcDoorbell _
  | .advanceTime _ => .isTrue trivial

theorem runTask_moderated {task : Task} (moderated : state.Moderated)
    (ran : runTask config state task = some after) : after.Moderated := by
  by_cases other : task.unnoticed = true
  · exact (runTask_unnoticed other ran).moderated moderated
  cases task with
  | pumpTimers expired =>
      obtain rfl := Option.some.inj ran
      exact pumpTimers_moderated config moderated expired
  | emitCompletionEvent ticket id =>
      obtain rfl := Option.some.inj ran
      intro other timer found
      rw [emitCompletionEvent_timer] at found
      exact moderated other timer found
  | maybeCompleteJfcDestroy =>
      obtain rfl := Option.some.inj ran
      unfold maybeCompleteJfcDestroy
      split
      next => exact moderated
      next command _ =>
        split
        next => exact moderated
        next =>
          refine (handleUbaseMailbox_handled config _ command).moderated ?_
          exact moderated
  | maybeCompleteEqDestroy =>
      obtain rfl := Option.some.inj ran
      unfold maybeCompleteEqDestroy
      split
      next => exact moderated
      next command _ =>
        split
        next => exact moderated
        next =>
          refine (handleUbaseMailbox_handled config _ command).moderated ?_
          exact moderated
  | _ => simp [Task.unnoticed] at other

theorem step_moderated_iff {event : Event} (moderated : before.Moderated) (asked : before.Asked)
    (taken : step config before event = some after) :
    after.Moderated ↔ Suitable config before event after := by
  rcases step_kinds taken with ⟨task, rest, rfl, _, ran⟩ | ⟨expired, rest, top, _, rfl⟩ | acted
  · have entered : (before.withStack rest).Moderated := moderated
    exact iff_of_true (runTask_moderated entered ran) trivial
  · refine iff_of_true moderated ?_
    cases event with
    | fire => simp [step, top, State.atBoundary] at taken
    | _ => trivial
  · cases event with
    | run | beginPass => simp [environment] at acted
    | fire index ok bytes =>
        simp only [environment] at acted
        split at acted
        next => simp at acted
        next callback held =>
          obtain rfl := Option.some.inj acted
          have withdrawn : (before.withOutstanding (before.outstanding.eraseIdx index)).Moderated :=
            moderated
          have only : Suitable config before (.fire index ok bytes)
              (runCallback config (before.withOutstanding (before.outstanding.eraseIdx index)) ok
                bytes callback) ↔ callback.Suits config before ok bytes := by
            simp [Suitable, held]
          refine Iff.trans ?_ only.symm
          cases callback with
          | consumerRead ticket id publication =>
              exact iff_of_true
                ((publish_unnoticed config _ ticket id publication _).moderated withdrawn) trivial
          | cqeWritten ticket id publication =>
              exact cqeWritten_moderated config withdrawn ticket id publication ok
          | ceqeWritten ticket ceqId vector =>
              exact iff_of_true
                ((ceqeWritten_unnoticed _ ticket ceqId ok).moderated withdrawn) trivial
          | interruptRaised ticket => exact iff_of_true withdrawn trivial
          | contextRead command => exact contextRead_moderated withdrawn command ok bytes
          | queryRead command =>
              exact iff_of_true
                ((queryRead_unnoticed _ command ok bytes).moderated withdrawn) trivial
          | queryWritten command =>
              have query := asked command (.inr (List.mem_of_getElem? held))
              exact iff_of_true (queryWritten_moderated withdrawn query ok) trivial
          | descriptorWritten => exact iff_of_true withdrawn trivial
    | writeCqe id cqe =>
        obtain rfl := Option.some.inj acted
        exact iff_of_true ((writeCqe_unnoticed before id cqe).moderated moderated) trivial
    | mailbox command =>
        simp only [environment] at acted
        split at acted
        next => simp at acted
        next =>
          obtain rfl := Option.some.inj acted
          refine iff_of_true ((handleUbaseMailbox_handled config _ command).moderated ?_) trivial
          exact moderated
    | ceqDoorbell value =>
        obtain rfl := Option.some.inj acted
        exact iff_of_true ((ceqDoorbell_unnoticed before value).moderated moderated) trivial
    | jfcDoorbell value =>
        obtain rfl := Option.some.inj acted
        refine iff_of_true ?_ trivial
        unfold jfcDoorbell
        simp only
        split <;> exact moderated
    | advanceTime now =>
        simp only [environment] at acted
        split at acted <;>
          obtain rfl := Option.some.inj acted <;>
          exact iff_of_true moderated trivial

end Steps

/-- In a run whose steps are all suitable every timer stays sound, and a step from there
leaves them sound exactly when it is suitable. -/
theorem moderation_sound_iff {config : Config} {state : State}
    (reached : Reaches (step config) (Suitable config) .initial state) :
    state.Moderated ∧ ∀ event after, step config state event = some after →
      (after.Moderated ↔ Suitable config state event after) := by
  have sound : state.Moderated ∧ state.Asked := by
    refine reached.induction_on (fun state => state.Moderated ∧ state.Asked) ⟨?_, ?_⟩
      fun before event after _ known taken allowed =>
        ⟨(step_moderated_iff known.1 known.2 taken).mpr allowed, step_asked known.2 taken⟩
    · intro id timer found
      simp [State.timer, State.initial] at found
    · intro command held
      simp [State.initial] at held
  exact ⟨sound.1, fun event after taken => step_moderated_iff sound.1 sound.2 taken⟩

/-- The context of a JFC with 64 entries that notifies after four CQEs. -/
def fourfoldImage : Bytes :=
  store64 0x20000000 ++ store64 0x2000001 ++ store64 (4 <<< 22) ++ store64 0x3000 ++
    List.replicate 96 0

/-- A modify command that gives the JFC the first period and keeps its count. -/
def periodImage : Bytes :=
  store64 0 ++ store64 0 ++ store32 0 ++ store32 (1 <<< 22) ++
    (List.replicate 120 0 : Bytes) ++ store32 (0x3ff <<< 22) ++ (List.replicate 108 0 : Bytes)

/-- JFC 7 comes into being and gets a period. -/
def modifyPeriod (index : Nat) : List Event :=
  [.mailbox ⟨.modifyJfc, 7, 0x1000⟩, .run, .fire index true periodImage]

/-- The period is given before the first CQE, whose completion starts the timer. -/
theorem moderation_sound_for_first_cqe :
    ∃ state, Reaches (step (.small true)) (Suitable (.small true)) .initial state ∧
      state.timer 7 = some ⟨4, 1, 1, 4000000⟩ ∧ state.Moderated := by
  let events : List Event := create .createJfc 7 fourfoldImage ++ modifyPeriod 0 ++
    [.run, .fire 0 true [], .writeCqe 7 .small] ++ pass 8 ++ [.fire 0 true []]
  obtain ⟨state, reached, seen⟩ := exists_of_execute
    (show (execute (step (.small true)) (Suitable (.small true)) events .initial).map
      (fun state => state.timer 7) = some (some ⟨4, 1, 1, 4000000⟩) by decide +kernel)
  exact ⟨state, reached, seen, (moderation_sound_iff reached).1⟩

/-- The period is given while a CQE waits: no timer runs for it. -/
theorem modified_period_strands_cqe :
    ¬ ∀ (config : Config) (state : State), Reaches (step config) always .initial state →
      state.Moderated := by
  intro moderated
  let events : List Event := create .createJfc 7 fourfoldImage ++ [.writeCqe 7 .small] ++ pass 8 ++
    [.fire 0 true [], .run] ++ modifyPeriod 0
  obtain ⟨state, reached, seen⟩ := exists_of_execute
    (show (execute (step (.small true)) always events .initial).map (fun state => state.timer 7) =
      some (some ⟨4, 1, 1, 0⟩) by decide +kernel)
  exact (moderated _ state reached 7 _ seen).armed (by decide) (by decide) rfl

end Udma.Cq
