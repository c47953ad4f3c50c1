import Udma.Cq.Machine

/-!
# What a step can do

A step either runs the top of the stack, begins a pass of the pump, or lets an
outside party act.  The mailbox commands are summed up once more: each ends in a
host call, apart from a destroy command that has to wait.
-/

namespace Udma.Cq

open Udma.Abi

variable {config : Config} {before after : State} {event : Event}

/-- The states in which nothing but the stack differs from `state`. -/
@[simps]
def State.withStack (state : State) (stack : List Task) : State := { state with stack := stack }

/-- A callback with the host no longer holding it. -/
@[simps]
def State.withOutstanding (state : State) (outstanding : List Callback) : State :=
  { state with outstanding := outstanding }

/-- The three kinds of steps, with the event that makes the first of them. -/
theorem step_kinds (taken : step config before event = some after) :
    (∃ task rest, event = .run ∧ before.stack = task :: rest ∧
        runTask config (before.withStack rest) task = some after) ∨
      (∃ expired rest, before.stack = .pumpPass :: rest ∧ expired.Perm before.expired ∧
        after = beginPass (before.withStack rest) expired) ∨
      environment config before event = some after := by
  unfold step at taken
  split at taken
  next task rest shape => exact .inl ⟨task, rest, rfl, shape, taken⟩
  next expired rest shape =>
    split at taken
    next order =>
      exact .inr (.inl ⟨expired, rest, shape, order, (Option.some.inj taken).symm⟩)
    next disorder => exact absurd taken (by simp)
  next => exact absurd taken (by simp)
  next => exact absurd taken (by simp)
  next =>
    split at taken
    next boundary => exact .inr (.inr taken)
    next inside => exact absurd taken (by simp)

theorem step_cases (taken : step config before event = some after) :
    (∃ task rest, before.stack = task :: rest ∧
        runTask config (before.withStack rest) task = some after) ∨
      (∃ expired rest, before.stack = .pumpPass :: rest ∧ expired.Perm before.expired ∧
        after = beginPass (before.withStack rest) expired) ∨
      environment config before event = some after :=
  (step_kinds taken).imp_left fun ⟨task, rest, _, shape, ran⟩ => ⟨task, rest, shape, ran⟩

/-- Callbacks of a mailbox command. -/
def Callback.mailbox : Callback → Bool
  | .contextRead _ | .queryRead _ | .queryWritten _ | .descriptorWritten => true
  | _ => false

/-- Callbacks that install a context. -/
def Callback.creates : Callback → Bool
  | .contextRead command => command.opcode == .createJfc || command.opcode == .createCeq
  | _ => false

def Observation.mailbox : Observation → Bool
  | .writeBack _ _ => true
  | _ => false

/-- The next host call of a command, after what it records. -/
inductive Issued (state : State) : State → Prop where
  | read (callback : Callback) (own : callback.mailbox = true)
      (plain : callback.creates = false) : Issued state (state.call callback)
  | writeBack (command : Command) (status : Nat) :
      Issued state (finishUbaseDescriptor state command status)

/-- What `ApplyUbaseMailbox` and the callbacks of a command do. -/
inductive Applied (state : State) : State → Prop where
  | issued {after : State} : Issued state after → Applied state after
  | installedCeq (command : Command) (ceq : Ceq) :
      Applied state (finishUbaseDescriptor
        { state with ceqs := state.ceqs.insert command.tag ceq } command 0)
  | installedJfc (command : Command) (context : Bytes) (jfc : Jfc) :
      command.opcode = .createJfc → decodeJfc context state.generations = some jfc →
      Applied state (finishUbaseDescriptor
        { state.setJfc command.tag jfc with
          generations := state.generations + 1
          armedJfcs := state.armedJfcs.erase command.tag
          jfcCqeDmaInFlight := state.jfcCqeDmaInFlight.erase command.tag
          jfcQueryContexts := state.jfcQueryContexts.insert command.tag (context.take 128)
          jfcCeqs := state.jfcCeqs.insert command.tag (word context 2 >>> 24) } command 0)
  | modified (command : Command) (context : Bytes) (jfc : Jfc) :
      state.jfcs.lookup command.tag = some jfc →
      Applied state
        (finishUbaseDescriptor (state.setJfc command.tag (jfc.modify context)) command 0)

theorem applyUbaseMailbox_applied (state : State) (command : Command) (context : Bytes) :
    Applied state (applyUbaseMailbox state command context) := by
  unfold applyUbaseMailbox
  split
  next =>
    split
    next => exact .issued (.writeBack command 22)
    next ceq _ => exact .installedCeq command ceq
  next isCreate =>
    split
    next => exact .issued (.writeBack command 22)
    next jfc decoded => exact .installedJfc command context jfc isCreate decoded
  next =>
    split
    next => exact .issued (.writeBack command 2)
    next jfc found => exact .modified command context jfc found
  all_goals exact .issued (.writeBack command 0)

theorem contextRead_applied (state : State) (command : Command) (ok : Bool) (bytes : Bytes) :
    Applied state (contextRead state command ok bytes) := by
  unfold contextRead
  split
  next => exact applyUbaseMailbox_applied state command bytes
  next => exact .issued (.writeBack command 5)

theorem queryWritten_applied (state : State) (command : Command) (ok : Bool) :
    Applied state (queryWritten state command ok) := by
  unfold queryWritten
  split
  next => exact applyUbaseMailbox_applied state command []
  next => exact .issued (.writeBack command 5)

/-- What the read of a query does: it may refresh the cached consumer. -/
theorem queryRead_cases (state : State) (command : Command) (ok : Bool) (bytes : Bytes) :
    queryRead state command ok bytes = finishUbaseDescriptor state command 5 ∨
      ∃ jfc, state.jfcs.lookup command.tag = some jfc ∧ ok = true ∧ bytes.length = 4 ∧
        queryRead state command ok bytes =
          (state.setJfc command.tag { jfc with consumer := load32 bytes 0 &&& indexMask }).call
            (.queryWritten command) := by
  unfold queryRead
  split
  next => exact .inl rfl
  next jfc found =>
    split
    next arrived =>
      simp only [Bool.and_eq_true, beq_iff_eq] at arrived
      exact .inr ⟨jfc, found, arrived.1, arrived.2, rfl⟩
    next => exact .inl rfl

/-- What `HandleUbaseMailbox` does. -/
inductive Handled (config : Config) (state : State) (command : Command) : State → Prop where
  | issued {after : State} : Issued state after → Handled config state command after
  | creating :
      command.opcode = .createJfc → state.jfcs.lookup command.tag = none →
      Handled config state command (state.call (.contextRead command))
  | creatingCeq :
      command.opcode = .createCeq → state.ceqBusy command.tag = false →
      Handled config state command (state.call (.contextRead command))
  | deferredCeq :
      state.ceqBusy command.tag = true →
      Handled config state command
        { state with drainingCeqId := some command.tag, pendingEqDestroy := some command }
  | deferredJfc :
      state.jfcPublicationBusy command.tag = true →
      Handled config state command
        { state with drainingJfcId := some command.tag, pendingJfcDestroy := some command }
  | erasedCeq :
      state.ceqBusy command.tag = false →
      Handled config state command (finishUbaseDescriptor
        { state with ceqs := state.ceqs.erase command.tag } command 0)
  | erasedJfc :
      state.jfcPublicationBusy command.tag = false →
      Handled config state command
        (finishUbaseDescriptor (eraseJfc config state command.tag) command 0)

theorem handleUbaseMailbox_handled (config : Config) (state : State) (command : Command) :
    Handled config state command (handleUbaseMailbox config state command) := by
  unfold handleUbaseMailbox
  split
  next isDestroyCeq =>
    split
    next busy => exact .deferredCeq busy
    next idle =>
      have same : applyUbaseMailbox { state with ceqs := state.ceqs.erase command.tag } command []
          = finishUbaseDescriptor { state with ceqs := state.ceqs.erase command.tag } command 0 := by
        simp only [applyUbaseMailbox, isDestroyCeq]
      rw [same]
      exact .erasedCeq (by simpa using idle)
  next isCreateCeq =>
    split
    next => exact .issued (.writeBack command 16)
    next idle =>
      split
      next => exact .issued (.writeBack command 22)
      next => exact .creatingCeq isCreateCeq (by simpa using idle)
  next isDestroyJfc =>
    split
    next busy => exact .deferredJfc busy
    next idle =>
      have same : applyUbaseMailbox (eraseJfc config state command.tag) command [] =
          finishUbaseDescriptor (eraseJfc config state command.tag) command 0 := by
        simp only [applyUbaseMailbox, isDestroyJfc]
      rw [same]
      exact .erasedJfc (by simpa using idle)
  next isCreateJfc =>
    split
    next => exact .issued (.writeBack command 22)
    next =>
      split
      next => exact .issued (.writeBack command 17)
      next absent => exact .creating isCreateJfc (by simpa using absent)
  next isModify =>
    split
    next => exact .issued (.writeBack command 22)
    next => exact .issued (.read _ rfl (by simp [Callback.creates, isModify]))
  next =>
    split
    next => exact .issued (.writeBack command 22)
    next =>
      split
      next => exact .issued (.writeBack command 2)
      next =>
        split
        next => exact .issued (.read _ rfl rfl)
        next => exact .issued (.read _ rfl rfl)

end Udma.Cq
