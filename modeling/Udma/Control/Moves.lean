import Udma.Control.Machine
import Udma.Transition.Run
import Udma.Collections.Withdraw

/-!
# What a step can do

Every function of a command chain ends in one of five ways: the ring is released,
the command waits for its resource, it waits for a host call, it is written back,
or a modulo by zero ends the program.  The same is said of the message queue, and
from both follows what a step does.
-/

namespace Udma.Control

open Udma.Abi Udma.Collections Udma.Transition

variable {config : Config} {state after before : State} {event : Event}

/-- The states in which nothing but the stack differs from `state`. -/
@[simps]
def State.withStack (state : State) (stack : List Task) : State := { state with stack := stack }

/-- The host no longer holds the callback at `index`. -/
@[simps]
def State.withdraw (state : State) (index : Nat) : State :=
  { state with outstanding := state.outstanding.eraseIdx index }

/-- Callbacks of a command that has not been written back. -/
def Callback.early : Callback → Bool
  | .descriptorFetched | .continuationRead _ | .contextRead _ | .queryRead _ | .queryWritten _ =>
      true
  | _ => false

/-- Callbacks of the write-back. -/
def Callback.writesBack : Callback → Bool
  | .recordWritten _ => true
  | _ => false

/-- Callbacks of the message queue. -/
def Callback.ubios : Callback → Bool
  | .sqeFetched | .payloadRead _ | .replyWritten _ | .cqeWritten _ => true
  | _ => false

/-- Observations of the command ring alone. -/
def Observation.ring : Observation → Bool
  | .fetched _ _ | .csqDma _ _ => true
  | _ => false

/-! ## Command chains -/

/-- The ways in which a piece of a command chain ends. -/
inductive Outcome (state : State) : State → Prop where
  | released : Outcome state state.release
  | deferred (job : Job) : Outcome state { state with pendingDestroy := some job }
  | waits (observations : List Observation) (callback : Callback) :
      (∀ observation ∈ observations, observation.ring = true) → callback.early = true →
      Outcome state ((state.emit observations).call callback)
  | crashed (device : Device) : state.csqDepth = 0 → Outcome state (state.change device).crash
  | writesBack (device : Device) (address : Nat) (bytes : Bytes) (writeBack : WriteBack) :
      Outcome state (((state.change device).emit [.csqDma address bytes]).call
        (.recordWritten writeBack))

theorem State.change_self (state : State) : state.change state.device = state := by
  simp [State.change, State.emit]

theorem processNextUbase_outcome (state : State) : Outcome state (processNextUbase state) := by
  unfold processNextUbase
  split
  · exact .released
  · split
    · exact .released
    · split
      · exact .released
      · exact .waits _ _ (by simp [Observation.ring]) rfl

theorem finishUbaseDescriptor_changed (state : State) (device : Device) (job : Job) (opcode : Nat)
    (response : Bytes) (after : After) (status : Nat) :
    Outcome state
      (finishUbaseDescriptor (state.change device) job opcode response after status) := by
  unfold finishUbaseDescriptor
  split
  next zero => exact .crashed device zero
  next =>
    simp only
    generalize continuationWrites _ _ _ _ _ _ = further
    cases further with
    | nil => exact .writesBack device _ _ _
    | cons first rest => exact .writesBack device first.1 first.2 _

theorem finishUbaseDescriptor_outcome (state : State) (job : Job) (opcode : Nat)
    (response : Bytes) (after : After) (status : Nat) :
    Outcome state (finishUbaseDescriptor state job opcode response after status) := by
  have changed := finishUbaseDescriptor_changed state state.device job opcode response after status
  rwa [state.change_self] at changed

theorem rejectUbase_outcome (state : State) (job : Job) (status : Nat) :
    Outcome state (rejectUbase state job status) :=
  finishUbaseDescriptor_outcome state job _ [] .nothing status

theorem applyUbaseMailbox_outcome (state : State) (job : Job) (context : Bytes) :
    Outcome state (applyUbaseMailbox state job context) := by
  unfold applyUbaseMailbox
  split
  · split
    · exact finishUbaseDescriptor_changed _ _ _ _ _ _ _
    · exact rejectUbase_outcome _ _ _
  · split
    · exact rejectUbase_outcome _ _ _
    · exact finishUbaseDescriptor_changed _ _ _ _ _ _ _
  · exact finishUbaseDescriptor_outcome _ _ _ _ _ _

/-- A call that records nothing. -/
theorem Outcome.waits_silent (state : State) (callback : Callback) (early : callback.early = true) :
    Outcome state (state.call callback) := by
  have called : Outcome state ((state.emit []).call callback) := .waits [] callback (by simp) early
  have same : state.emit [] = state := by simp [State.emit]
  rwa [same] at called

theorem handleUbaseMailbox_outcome (config : Config) (state : State) (job : Job) :
    Outcome state (handleUbaseMailbox config state job) := by
  unfold handleUbaseMailbox
  split
  next =>
    split
    · exact .waits_silent _ _ rfl
    · exact rejectUbase_outcome _ _ _
  next kind isDestroy =>
    split
    · exact rejectUbase_outcome _ _ _
    · split
      · exact .deferred job
      · -- Nothing is left to apply behind the erasure.
        have same : applyUbaseMailbox (state.change (state.device.erase kind job.tag)) job [] =
            finishUbaseDescriptor (state.change (state.device.erase kind job.tag)) job 0x7000 []
              job.mailboxEvent 0 := by
          simp only [applyUbaseMailbox, isDestroy]
        rw [same]
        exact finishUbaseDescriptor_changed _ _ _ _ _ _ _
  next =>
    split
    · exact rejectUbase_outcome _ _ _
    · split
      · exact rejectUbase_outcome _ _ _
      · exact .waits_silent _ _ rfl
  next =>
    split
    · exact rejectUbase_outcome _ _ _
    · split
      · exact rejectUbase_outcome _ _ _
      · split
        · exact .waits_silent _ _ rfl
        · exact .waits_silent _ _ rfl
  next =>
    split
    · exact rejectUbase_outcome _ _ _
    · exact .waits_silent _ _ rfl
  next => exact applyUbaseMailbox_outcome _ _ _

theorem applyCtrlq_outcome (config : Config) (state : State) (job : Job) (request : Bytes) :
    Outcome state (applyCtrlq config state job request) := by
  unfold applyCtrlq
  simp only
  split
  · exact finishUbaseDescriptor_changed _ _ _ _ _ _ _
  · exact finishUbaseDescriptor_changed _ _ _ _ _ _ _

theorem readContinuation_outcome (config : Config) (state : State) (gathering : Gathering) :
    Outcome state (readContinuation config state gathering) := by
  unfold readContinuation
  split
  · exact applyCtrlq_outcome _ _ _ _
  · exact .waits_silent _ _ rfl

theorem handleCtrlq_outcome (config : Config) (state : State) (job : Job) :
    Outcome state (handleCtrlq config state job) := by
  unfold handleCtrlq
  split
  next zero =>
    have crashed := Outcome.crashed state.device zero
    rwa [state.change_self] at crashed
  next => exact readContinuation_outcome _ _ _

theorem handleUbaseDescriptor_outcome (config : Config) (state : State) (descriptor : Bytes) :
    Outcome state (handleUbaseDescriptor config state descriptor) := by
  unfold handleUbaseDescriptor
  split
  next zero =>
    have crashed := Outcome.crashed state.device zero
    rwa [state.change_self] at crashed
  next =>
    simp only
    split
    · exact rejectUbase_outcome _ _ _
    · split
      · exact rejectUbase_outcome _ _ _
      · split
        · exact handleUbaseMailbox_outcome _ _ _
        · split
          · exact handleCtrlq_outcome _ _ _
          · split
            · split
              · exact rejectUbase_outcome _ _ _
              · exact finishUbaseDescriptor_outcome _ _ _ _ _ _
            · split
              · exact rejectUbase_outcome _ _ _
              · exact finishUbaseDescriptor_outcome _ _ _ _ _ _

theorem runCallback_outcome (config : Config) (state : State) (ok : Bool) (bytes : Bytes)
    {callback : Callback} (early : callback.early = true) :
    Outcome state (runCallback config state ok bytes callback) := by
  cases callback with
  | descriptorFetched =>
      simp only [runCallback]
      split
      · exact handleUbaseDescriptor_outcome _ _ _
      · exact .released
  | continuationRead gathering =>
      simp only [runCallback]
      split
      · exact readContinuation_outcome _ _ _
      · exact rejectUbase_outcome _ _ _
  | contextRead job =>
      simp only [runCallback]
      split
      · exact applyUbaseMailbox_outcome _ _ _
      · exact rejectUbase_outcome _ _ _
  | queryRead job =>
      simp only [runCallback]
      split
      · exact .waits_silent _ _ rfl
      · exact rejectUbase_outcome _ _ _
  | queryWritten job =>
      simp only [runCallback]
      split
      · exact applyUbaseMailbox_outcome _ _ _
      · exact rejectUbase_outcome _ _ _
  | _ => simp [Callback.early] at early

/-! ## Messages -/

/-- The ways in which a piece of a message chain ends; the depth of the ring is not
stored by the device. -/
inductive Message (state : State) : State → Prop where
  | released (words : Words) (requests : List Bytes) : words 4 = state.ubios 4 →
      Message state
        { state with ubios := words, ubiosRequests := requests, ubiosBusy := false }
  | waits (words : Words) (requests : List Bytes) (callback : Callback) :
      words 4 = state.ubios 4 → callback.ubios = true →
      Message state
        ({ state with ubios := words, ubiosRequests := requests }.call callback)
  | crashed (requests : List Bytes) : state.ubios 4 = 0 →
      Message state { state with ubiosRequests := requests, crashed := true }

theorem processNextUbios_message (state : State) (words : Words) (same : words 4 = state.ubios 4) :
    Message state (processNextUbios { state with ubios := words }) := by
  unfold processNextUbios
  simp only
  split
  · exact .released words state.ubiosRequests same
  · split
    · exact .released words state.ubiosRequests same
    · split
      · exact .released words state.ubiosRequests same
      · exact .waits words state.ubiosRequests _ same rfl

theorem handleUbiosPayload_message (config : Config) (state : State) (sqe request : Bytes) :
    Message state (handleUbiosPayload config state sqe request) := by
  unfold handleUbiosPayload
  simp only
  split
  · exact .released state.ubios _ rfl
  · split
    next zero => exact .crashed _ zero
    next => exact .waits state.ubios _ _ rfl rfl

theorem finishUbios_message (state : State) (reply : Reply) :
    Message state (finishUbios state reply) := by
  refine processNextUbios_message state _ ?_
  rw [Words.store_other _ _ (by decide), Words.store_other _ _ (by decide),
    Words.store_other _ _ (by decide)]

theorem runCallback_message (config : Config) (state : State) (ok : Bool) (bytes : Bytes)
    {callback : Callback} (own : callback.ubios = true) :
    Message state (runCallback config state ok bytes callback) := by
  have failed : Message state (failUbios state) := .released state.ubios state.ubiosRequests rfl
  cases callback with
  | sqeFetched =>
      simp only [runCallback]
      split
      · unfold handleUbiosSqe
        simp only
        split
        · exact failed
        · exact .waits state.ubios state.ubiosRequests _ rfl rfl
      · exact failed
  | payloadRead sqe =>
      simp only [runCallback]
      split
      · exact handleUbiosPayload_message _ _ _ _
      · exact failed
  | replyWritten reply =>
      simp only [runCallback]
      split
      · exact .waits state.ubios state.ubiosRequests _ rfl rfl
      · exact failed
  | cqeWritten reply =>
      simp only [runCallback]
      split
      · exact finishUbios_message _ _
      · exact failed
  | _ => simp [Callback.ubios] at own

/-! ## Steps -/

/-- The state in which a write to the command registers finds the engine. -/
def State.withUbase (state : State) (words : Words) (target : Nat) : State :=
  { state with ubase := words, ubaseTargetProducer := target }

/-- The same for the message registers. -/
def State.withUbios (state : State) (words : Words) (target : Nat) : State :=
  { state with ubios := words, ubiosTargetProducer := target }

/-- What the other engines do. -/
def State.elsewhere (state : State) (busy : Kind → Nat → Bool) (linkUp : List Bool)
    (pendingRma : Bool) (device : Device) : State :=
  { state with busy := busy, linkUp := linkUp, pendingRma := pendingRma, device := device }

inductive Stepped (config : Config) (before : State) : Event → State → Prop where
  | returned (rest : List Task) : before.stack = .external :: rest →
      Stepped config before .run (before.withStack rest)
  | responding (event : Bytes) (rest : List Task) : before.stack = .emitCtrlqResponse event :: rest →
      Stepped config before .run (emitCtrlqResponse (before.withStack rest) event)
  | notifying (sequence : Nat) (rest : List Task) : before.stack = .emitMailboxEvent sequence :: rest →
      Stepped config before .run
        (((before.withStack rest).emit [.mailboxEvent sequence]).push [.external])
  | next (rest : List Task) {after : State} : before.stack = .processNextUbase :: rest →
      Outcome (before.withStack rest) after → Stepped config before .run after
  | command (index : Nat) (ok : Bool) (bytes : Bytes) (callback : Callback) {after : State} :
      before.outstanding[index]? = some callback → callback.early = true →
      Outcome (before.withdraw index) after → Stepped config before (.fire index ok bytes) after
  | recordWritten (index : Nat) (bytes : Bytes) (writeBack : WriteBack) :
      before.outstanding[index]? = some (.recordWritten writeBack) →
      Stepped config before (.fire index true bytes) (issueRecord (before.withdraw index) writeBack)
  | recordFailed (index : Nat) (bytes : Bytes) (writeBack : WriteBack) :
      before.outstanding[index]? = some (.recordWritten writeBack) →
      Stepped config before (.fire index false bytes) (before.withdraw index).release
  | blockWritten (index : Nat) (bytes : Bytes) (emission : Emission) :
      before.outstanding[index]? = some (.blockWritten emission) →
      Stepped config before (.fire index true bytes) (issueBlock (before.withdraw index) emission)
  | blockFailed (index : Nat) (bytes : Bytes) (emission : Emission) :
      before.outstanding[index]? = some (.blockWritten emission) →
      Stepped config before (.fire index false bytes) (before.withdraw index)
  | interruptRaised (index : Nat) (ok : Bool) (bytes : Bytes) :
      before.outstanding[index]? = some .interruptRaised →
      Stepped config before (.fire index ok bytes) (before.withdraw index)
  | message (index : Nat) (ok : Bool) (bytes : Bytes) (callback : Callback) {after : State} :
      before.outstanding[index]? = some callback → callback.ubios = true →
      Message (before.withdraw index) after → Stepped config before (.fire index ok bytes) after
  | writtenUbase (offset length value target : Nat) (words : Words) :
      (∀ index, index ≠ 5 → words index = before.ubase.write offset length value index) →
      Stepped config before (.writeUbase offset length value) (before.withUbase words target)
  | kickedUbase (value : Nat) : before.ubaseBusy = false →
      Stepped config before (.writeUbase 0x10 4 value)
        (processNextUbase { before.withUbase (before.ubase.write 0x10 4 value) (value % 2 ^ 32) with
          ubaseBusy := true })
  | writtenUbios (offset length value target : Nat) (words : Words) :
      Stepped config before (.writeUbios offset length value) (before.withUbios words target)
  | kickedUbios (value : Nat) : before.ubiosBusy = false →
      Stepped config before (.writeUbios 0x08 4 value)
        (processNextUbios { before.withUbios (before.ubios.write 0x08 4 value) (value % 2 ^ 32) with
          ubiosBusy := true })
  | idle : before.pendingDestroy = none → Stepped config before .drained before
  | drained (job : Job) {after : State} : before.pendingDestroy = some job →
      Outcome { before with pendingDestroy := none } after → Stepped config before .drained after
  | elsewhere (event : Event) (busy : Kind → Nat → Bool) (linkUp : List Bool) (pendingRma : Bool)
      (device : Device) : Stepped config before event (before.elsewhere busy linkUp pendingRma device)

theorem runTask_stepped {task : Task} {rest : List Task} (top : before.stack = task :: rest) :
    Stepped config before .run (runTask (before.withStack rest) task) := by
  cases task with
  | external => exact .returned rest top
  | emitCtrlqResponse event => exact .responding event rest top
  | emitMailboxEvent sequence => exact .notifying sequence rest top
  | processNextUbase => exact .next rest top (processNextUbase_outcome _)

theorem fire_stepped {index : Nat} {callback : Callback}
    (found : before.outstanding[index]? = some callback) (ok : Bool) (bytes : Bytes) :
    Stepped config before (.fire index ok bytes)
      (runCallback config (before.withdraw index) ok bytes callback) := by
  by_cases early : callback.early = true
  · exact .command index ok bytes callback found early (runCallback_outcome _ _ _ _ early)
  by_cases own : callback.ubios = true
  · exact .message index ok bytes callback found own (runCallback_message _ _ _ _ own)
  cases callback with
  | recordWritten writeBack =>
      cases ok with
      | true => exact .recordWritten index bytes writeBack found
      | false => exact .recordFailed index bytes writeBack found
  | blockWritten emission =>
      cases ok with
      | true => exact .blockWritten index bytes emission found
      | false => exact .blockFailed index bytes emission found
  | interruptRaised => exact .interruptRaised index ok bytes found
  | descriptorFetched | continuationRead _ | contextRead _ | queryRead _ | queryWritten _ =>
      exact absurd rfl early
  | sqeFetched | payloadRead _ | replyWritten _ | cqeWritten _ => exact absurd rfl own

theorem writeUbase_stepped (config : Config) (before : State) (offset length value : Nat) :
    Stepped config before (.writeUbase offset length value)
      (writeUbase before offset length value) := by
  unfold writeUbase
  simp only
  split
  next =>
    refine .writtenUbase offset length value before.ubaseTargetProducer _ ?_
    intro index other
    exact Words.store_other _ _ other
  next =>
    split
    next shape =>
      obtain ⟨rfl, rfl⟩ := shape
      unfold kickUbase
      split
      next => exact .writtenUbase 0x10 4 value _ _ fun _ _ => rfl
      next idle => exact .kickedUbase value (by simpa using idle)
    next => exact .writtenUbase offset length value before.ubaseTargetProducer _ fun _ _ => rfl

theorem writeUbios_stepped (config : Config) (before : State) (offset length value : Nat) :
    Stepped config before (.writeUbios offset length value)
      (writeUbios before offset length value) := by
  unfold writeUbios
  simp only
  split
  next => exact .writtenUbios offset length value before.ubiosTargetProducer _
  next =>
    split
    next shape =>
      obtain ⟨rfl, rfl⟩ := shape
      unfold kickUbios
      split
      next => exact .writtenUbios 0x08 4 value _ _
      next idle => exact .kickedUbios value (by simpa using idle)
    next => exact .writtenUbios offset length value before.ubiosTargetProducer _

theorem environment_stepped (acted : environment config before event = some after) :
    Stepped config before event after := by
  cases event with
  | run => simp [environment] at acted
  | fire index ok bytes =>
      simp only [environment] at acted
      cases found : before.outstanding[index]? with
      | none => simp [found] at acted
      | some callback =>
          simp only [found, Option.some.injEq] at acted
          subst acted
          exact fire_stepped found ok bytes
  | writeUbase offset length value =>
      simp only [environment] at acted
      split at acted
      next =>
        obtain rfl := Option.some.inj acted
        exact writeUbase_stepped config before offset length value
      next => simp at acted
  | writeUbios offset length value =>
      simp only [environment] at acted
      split at acted
      next =>
        obtain rfl := Option.some.inj acted
        exact writeUbios_stepped config before offset length value
      next => simp at acted
  | drained =>
      obtain rfl := Option.some.inj acted
      unfold completeDestroy
      split
      next none => exact .idle none
      next job found => exact .drained job found (handleUbaseMailbox_outcome _ _ _)
  | setBusy kind tag busy =>
      obtain rfl := Option.some.inj acted
      exact .elsewhere _ _ before.linkUp before.pendingRma before.device
  | setLinkState port up =>
      obtain rfl := Option.some.inj acted
      unfold setLinkState
      simp only
      split
      · exact .elsewhere _ before.busy before.linkUp before.pendingRma before.device
      · split
        · exact .elsewhere _ before.busy _ before.pendingRma before.device
        · exact .elsewhere _ before.busy _ before.pendingRma _
  | setPendingRma pending =>
      obtain rfl := Option.some.inj acted
      exact .elsewhere _ before.busy before.linkUp pending before.device

/-- A step from a state that has not crashed. -/
theorem step_stepped (taken : step config before event = some after) :
    before.crashed = false ∧ Stepped config before event after := by
  unfold step at taken
  split at taken
  next => simp at taken
  next running =>
    refine ⟨by simpa using running, ?_⟩
    split at taken
    next task rest top =>
      obtain rfl := Option.some.inj taken
      exact runTask_stepped top
    next => simp at taken
    next =>
      split at taken
      next => exact environment_stepped taken
      next => simp at taken

end Udma.Control
