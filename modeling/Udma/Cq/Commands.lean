import Udma.Cq.Passage

/-!
# One command at a time

The command queue runs one mailbox command at a time.  At each moment at most one
of its callbacks is outstanding, or one destroy command is waiting, so a context
that was found missing when its create command started is still missing when the
command installs it.
-/

namespace Udma.Cq

open Udma.Abi Udma.Collections Udma.Transition

variable {config : Config} {state changed after before : State}

/-! ## Publications leave the commands alone -/

namespace Paperwork

theorem refl (state : State) : Paperwork state state := ⟨rfl, rfl, rfl, rfl, rfl, rfl, rfl⟩

theorem trans (first : Paperwork state changed) (second : Paperwork changed after) :
    Paperwork state after where
  calls := second.calls.trans first.calls
  ubaseBusy := second.ubaseBusy.trans first.ubaseBusy
  jfcDestroy := second.jfcDestroy.trans first.jfcDestroy
  eqDestroy := second.eqDestroy.trans first.eqDestroy
  jfcDraining := second.jfcDraining.trans first.jfcDraining
  eqDraining := second.eqDraining.trans first.eqDraining
  mappings := second.mappings.trans first.mappings

theorem then_push (paperwork : Paperwork state changed) (tasks : List Task) :
    Paperwork state (changed.push tasks) := { paperwork with }

theorem then_emit (paperwork : Paperwork state changed) (observations : List Observation) :
    Paperwork state (changed.emit observations) := { paperwork with }

theorem then_call (paperwork : Paperwork state changed) {callback : Callback}
    (other : callback.mailbox = false) : Paperwork state (changed.call callback) :=
  { paperwork with
    calls := by
      rw [← paperwork.calls]
      simp [other] }

end Paperwork

theorem publish_paperwork (config : Config) (state : State) (ticket id : Nat)
    (publication : Publication) (consumer : Option Nat) :
    Paperwork state (publish config state ticket id publication consumer) := by
  unfold publish
  split
  next =>
    split
    next => exact (Paperwork.refl state).then_push _
    next =>
      refine (Paperwork.then_emit ?_ _).then_call rfl
      unfold reserveCqe
      split <;> exact { Paperwork.refl state with }
  next => exact (Paperwork.refl state).then_push _

theorem writeCqeNow_paperwork (config : Config) (state : State) (ticket id : Nat)
    (publication : Publication) :
    Paperwork state (writeCqeNow config state ticket id publication) := by
  unfold writeCqeNow
  split
  next => exact (Paperwork.refl state).then_push _
  next =>
    split
    next => exact publish_paperwork config state ticket id publication _
    next => exact (Paperwork.refl state).then_call rfl

theorem moderate_paperwork (state : State) (ticket id call : Nat) (jfc : Jfc) :
    Paperwork state (moderate state ticket id call jfc) := by
  unfold moderate
  split <;> exact { Paperwork.refl state with }

theorem cqeWritten_paperwork (config : Config) (state : State) (ticket id : Nat)
    (publication : Publication) (ok : Bool) :
    Paperwork state (cqeWritten config state ticket id publication ok) := by
  unfold cqeWritten
  split
  next => exact (Paperwork.refl state).then_push _
  next jfc _ =>
    split
    next =>
      split
      next => exact (Paperwork.refl state).then_push _
      next => exact (Paperwork.refl state).then_push _
      next left _ =>
        have settled : Paperwork state (settleCqe state id jfc left) :=
          { Paperwork.refl state with }
        split
        next => exact settled.trans (moderate_paperwork _ _ _ _ _)
        next => exact settled.then_push _
    next =>
      split
      next => exact moderate_paperwork _ _ _ _ _
      next => exact { Paperwork.refl state with }

theorem admitJfcPublications_paperwork (config : Config) (state : State) (id : Nat) :
    Paperwork state (admitJfcPublications config state id) := by
  unfold admitJfcPublications
  split
  next => exact Paperwork.refl state
  next queue _ =>
    split
    next => exact (Paperwork.refl state).then_push _
    next publication rest _ =>
      split
      next =>
        have admitted : Paperwork state (grant config state id queue publication rest) :=
          { Paperwork.refl state with }
        exact admitted.trans (writeCqeNow_paperwork config _ _ _ _)
      next => exact (Paperwork.refl state).then_push _

theorem writeCqe_paperwork (state : State) (id : Nat) (cqe : Cqe) :
    Paperwork state (writeCqe state id cqe) := by
  unfold writeCqe
  simp only
  split <;> exact { Paperwork.refl state with }

/-- Activations that run no command. -/
def Task.commands : Task → Bool
  | .maybeCompleteJfcDestroy | .maybeCompleteEqDestroy => true
  | _ => false

theorem runTask_paperwork {task : Task} (other : task.commands = false)
    (ran : runTask config state task = some after) : Paperwork state after := by
  by_cases aside : task.aside = true
  · exact (runTask_aside aside ran).paperwork
  cases task with
  | processJfcPublications id =>
      obtain rfl := Option.some.inj ran
      unfold processJfcPublications
      split
      next => exact Paperwork.refl state
      next => split <;> exact { Paperwork.refl state with }
  | admitJfcPublications id =>
      obtain rfl := Option.some.inj ran
      exact admitJfcPublications_paperwork config state id
  | leaveJfcPublications id =>
      obtain rfl := Option.some.inj ran
      unfold leaveJfcPublications
      split
      next => exact Paperwork.refl state
      next => split <;> exact { Paperwork.refl state with }
  | releasePublication id =>
      obtain rfl := Option.some.inj ran
      unfold releasePublication
      split <;> exact { Paperwork.refl state with }
  | maybeCompleteJfcDestroy => simp [Task.commands] at other
  | maybeCompleteEqDestroy => simp [Task.commands] at other
  | _ => simp [Task.aside] at aside

/-! ## The command in progress -/

def State.mailboxCalls (state : State) : List Callback :=
  state.outstanding.filter Callback.mailbox

/-- The command in progress: a callback, or a destroy command that waits. -/
structure State.Filed (state : State) : Prop where
  single : state.mailboxCalls.length + state.pendingJfcDestroy.isSome.toNat +
    state.pendingEqDestroy.isSome.toNat = state.ubaseBusy.toNat
  vacant : ∀ command, .contextRead command ∈ state.outstanding →
    command.opcode = .createJfc → state.ring command.tag = none
  jfcDraining : state.drainingJfcId = state.pendingJfcDestroy.map Command.tag
  eqDraining : state.drainingCeqId = state.pendingEqDestroy.map Command.tag

/-- A command is being carried out. -/
structure State.Clear (state : State) : Prop where
  calls : state.mailboxCalls = []
  jfcDestroy : state.pendingJfcDestroy = none
  eqDestroy : state.pendingEqDestroy = none
  jfcDraining : state.drainingJfcId = none
  eqDraining : state.drainingCeqId = none
  ubaseBusy : state.ubaseBusy = true

namespace State.Filed

theorem of_paperwork (filed : state.Filed) (paperwork : Paperwork state after)
    (ring : ∀ id, state.ring id = none → after.ring id = none) : after.Filed where
  single := by
    have single := filed.single
    unfold State.mailboxCalls at single ⊢
    rw [paperwork.calls, paperwork.jfcDestroy, paperwork.eqDestroy, paperwork.ubaseBusy]
    exact single
  vacant := by
    intro command held isCreate
    have own : Callback.contextRead command ∈ state.outstanding.filter Callback.mailbox := by
      rw [← paperwork.calls]
      exact List.mem_filter.mpr ⟨held, rfl⟩
    exact ring _ (filed.vacant command (List.mem_of_mem_filter own) isCreate)
  jfcDraining := by rw [paperwork.jfcDraining, paperwork.jfcDestroy, filed.jfcDraining]
  eqDraining := by rw [paperwork.eqDraining, paperwork.eqDestroy, filed.eqDraining]

/-- The next host call of the command. -/
theorem of_call {callback : Callback} (clear : state.Clear) (own : callback.mailbox = true)
    (vacant : ∀ command, callback = .contextRead command → command.opcode = .createJfc →
      state.ring command.tag = none) : (state.call callback).Filed where
  single := by
    have none := clear.calls
    unfold State.mailboxCalls at none ⊢
    simp [none, own, clear.jfcDestroy, clear.eqDestroy, clear.ubaseBusy]
  vacant := by
    intro command held isCreate
    rcases List.mem_append.mp held with earlier | new
    · have listed : Callback.contextRead command ∈ state.mailboxCalls :=
        List.mem_filter.mpr ⟨earlier, rfl⟩
      rw [clear.calls] at listed
      simp at listed
    · exact vacant command (List.mem_singleton.mp new).symm isCreate
  jfcDraining := by simp [clear.jfcDraining, clear.jfcDestroy]
  eqDraining := by simp [clear.eqDraining, clear.eqDestroy]

theorem of_writeBack (clear : state.Clear) (command : Command) (status : Nat) :
    (finishUbaseDescriptor state command status).Filed := by
  have noted : (state.emit [.writeBack command status]).Clear := { clear with }
  exact of_call noted rfl (by simp)

theorem of_issued (clear : state.Clear) (issued : Issued state after) : after.Filed := by
  cases issued with
  | read callback own plain =>
      refine of_call clear own ?_
      rintro command rfl isCreate
      simp [Callback.creates, isCreate] at plain
  | writeBack command status => exact of_writeBack clear command status

theorem of_applied (clear : state.Clear) (applied : Applied state after) : after.Filed := by
  cases applied with
  | issued issued => exact of_issued clear issued
  | installedCeq command ceq =>
      apply of_writeBack
      exact { clear with }
  | installedJfc command context jfc isCreate decoded =>
      apply of_writeBack
      exact { clear with }
  | modified command context jfc found =>
      apply of_writeBack
      exact { clear with }

theorem of_handled (clear : state.Clear) {command : Command}
    (handled : Handled config state command after) : after.Filed := by
  cases handled with
  | issued issued => exact of_issued clear issued
  | creating isCreate absent =>
      refine of_call clear rfl ?_
      intro other same _
      obtain rfl := Callback.contextRead.inj same
      simp [State.ring, absent]
  | creatingCeq isCreate idle =>
      refine of_call clear rfl ?_
      intro other same isJfc
      obtain rfl := Callback.contextRead.inj same
      simp [isCreate] at isJfc
  | deferredCeq busy =>
      have none := clear.calls
      refine ⟨?_, ?_, ?_, rfl⟩
      · unfold State.mailboxCalls at none ⊢
        simp [none, clear.jfcDestroy, clear.ubaseBusy]
      · intro other held _
        have listed : Callback.contextRead other ∈ state.mailboxCalls :=
          List.mem_filter.mpr ⟨held, rfl⟩
        rw [clear.calls] at listed
        simp at listed
      · simp [clear.jfcDraining, clear.jfcDestroy]
  | deferredJfc busy =>
      have none := clear.calls
      refine ⟨?_, ?_, rfl, ?_⟩
      · unfold State.mailboxCalls at none ⊢
        simp [none, clear.eqDestroy, clear.ubaseBusy]
      · intro other held _
        have listed : Callback.contextRead other ∈ state.mailboxCalls :=
          List.mem_filter.mpr ⟨held, rfl⟩
        rw [clear.calls] at listed
        simp at listed
      · simp [clear.eqDraining, clear.eqDestroy]
  | erasedCeq idle =>
      apply of_writeBack
      exact { clear with }
  | erasedJfc idle =>
      apply of_writeBack
      exact { clear with }

/-- A waiting destroy command is taken up again. -/
theorem clear_jfcDestroy {command : Command} (filed : state.Filed)
    (waiting : state.pendingJfcDestroy = some command) :
    ({ state with pendingJfcDestroy := none, drainingJfcId := none } : State).Clear := by
  have single := filed.single
  have bound := Bool.toNat_le state.ubaseBusy
  simp only [waiting, Option.isSome_some, Bool.toNat_true] at single
  have idle : state.pendingEqDestroy = none := by
    cases other : state.pendingEqDestroy with
    | none => rfl
    | some _ =>
        simp only [other, Option.isSome_some, Bool.toNat_true] at single
        omega
  have drained := filed.eqDraining
  rw [idle] at drained
  refine ⟨List.length_eq_zero_iff.mp ?_, rfl, idle, rfl, drained, Bool.toNat_eq_one.mp ?_⟩
  · change state.mailboxCalls.length = 0
    omega
  · change state.ubaseBusy.toNat = 1
    omega

theorem clear_eqDestroy {command : Command} (filed : state.Filed)
    (waiting : state.pendingEqDestroy = some command) :
    ({ state with pendingEqDestroy := none, drainingCeqId := none } : State).Clear := by
  have single := filed.single
  have bound := Bool.toNat_le state.ubaseBusy
  simp only [waiting, Option.isSome_some, Bool.toNat_true] at single
  have idle : state.pendingJfcDestroy = none := by
    cases other : state.pendingJfcDestroy with
    | none => rfl
    | some _ =>
        simp only [other, Option.isSome_some, Bool.toNat_true] at single
        omega
  have drained := filed.jfcDraining
  rw [idle] at drained
  refine ⟨List.length_eq_zero_iff.mp ?_, idle, rfl, drained, rfl, Bool.toNat_eq_one.mp ?_⟩
  · change state.mailboxCalls.length = 0
    omega
  · change state.ubaseBusy.toNat = 1
    omega

theorem clear_of_idle (filed : state.Filed) (idle : state.ubaseBusy = false) :
    ({ state with ubaseBusy := true } : State).Clear := by
  have single := filed.single
  rw [idle, Bool.toNat_false] at single
  have jfc : state.pendingJfcDestroy = none := by
    cases other : state.pendingJfcDestroy with
    | none => rfl
    | some _ => simp [other] at single
  have eq : state.pendingEqDestroy = none := by
    cases other : state.pendingEqDestroy with
    | none => rfl
    | some _ => simp [other] at single
  have jfcDrained := filed.jfcDraining
  have eqDrained := filed.eqDraining
  rw [jfc] at jfcDrained
  rw [eq] at eqDrained
  refine ⟨List.length_eq_zero_iff.mp ?_, jfc, eq, jfcDrained, eqDrained, rfl⟩
  change state.mailboxCalls.length = 0
  omega

/-- The callback of the command is called. -/
theorem clear_of_fire {callback : Callback} {index : Nat} (filed : state.Filed)
    (held : state.outstanding[index]? = some callback) (own : callback.mailbox = true) :
    (state.withOutstanding (state.outstanding.eraseIdx index)).Clear := by
  have single := filed.single
  have bound := Bool.toNat_le state.ubaseBusy
  have fewer := ((perm_cons_eraseIdx held).filter Callback.mailbox).length_eq
  rw [List.filter_cons_of_pos own, List.length_cons] at fewer
  unfold State.mailboxCalls at single
  have jfc : state.pendingJfcDestroy = none := by
    cases other : state.pendingJfcDestroy with
    | none => rfl
    | some _ =>
        simp only [other, Option.isSome_some, Bool.toNat_true] at single
        omega
  have eq : state.pendingEqDestroy = none := by
    cases other : state.pendingEqDestroy with
    | none => rfl
    | some _ =>
        simp only [other, Option.isSome_some, Bool.toNat_true] at single
        omega
  have jfcDrained := filed.jfcDraining
  have eqDrained := filed.eqDraining
  rw [jfc] at jfcDrained
  rw [eq] at eqDrained
  refine ⟨List.length_eq_zero_iff.mp ?_, jfc, eq, jfcDrained, eqDrained, Bool.toNat_eq_one.mp ?_⟩
  · change ((state.outstanding.eraseIdx index).filter Callback.mailbox).length = 0
    omega
  · change state.ubaseBusy.toNat = 1
    omega

theorem ring_none {pipelined : Bool} {input : Input} {id : Nat} {lane next : Lane}
    (vacant : input.install = none) (move : Lane.Move pipelined input id lane next)
    (missing : lane.ring = none) : next.ring = none := by
  cases move with
  | written _ moved =>
      rcases moved with same | ⟨_, old, found, _⟩
      · exact same.trans missing
      · simp [found] at missing
  | installed queueIova shift own => simp [vacant] at own
  | reserved _ _ found => simp [found] at missing
  | refreshed _ found => simp [found] at missing
  | queried _ found => simp [found] at missing
  | erased => rfl
  | _ => exact missing

theorem runTask {task : Task} (filed : state.Filed)
    (ran : Cq.runTask config state task = some after) : after.Filed := by
  by_cases commands : task.commands = false
  · exact filed.of_paperwork (runTask_paperwork commands ran) fun id missing =>
      ring_none (show Input.install {} = none from rfl) (runTask_lane ran id) missing
  cases task with
  | maybeCompleteJfcDestroy =>
      obtain rfl := Option.some.inj ran
      unfold maybeCompleteJfcDestroy
      split
      next => exact filed
      next command waiting =>
        split
        next => exact filed
        next =>
          exact of_handled (filed.clear_jfcDestroy waiting)
            (handleUbaseMailbox_handled config _ command)
  | maybeCompleteEqDestroy =>
      obtain rfl := Option.some.inj ran
      unfold maybeCompleteEqDestroy
      split
      next => exact filed
      next command waiting =>
        split
        next => exact filed
        next =>
          exact of_handled (filed.clear_eqDestroy waiting)
            (handleUbaseMailbox_handled config _ command)
  | _ => simp [Task.commands] at commands

/-- Callbacks of publications and events leave the commands alone. -/
theorem withdraw {callback : Callback} {index : Nat}
    (held : state.outstanding[index]? = some callback) (other : callback.mailbox = false) :
    Paperwork state (state.withOutstanding (state.outstanding.eraseIdx index)) :=
  { Paperwork.refl state with calls := filter_eraseIdx held other }

theorem fire {callback : Callback} {index : Nat} (filed : state.Filed)
    (held : state.outstanding[index]? = some callback) (ok : Bool) (bytes : Bytes) :
    (Cq.runCallback config (state.withOutstanding (state.outstanding.eraseIdx index)) ok bytes
      callback).Filed := by
  cases callback with
  | consumerRead ticket id publication =>
      refine filed.of_paperwork ((withdraw held rfl).trans (publish_paperwork config _ _ _ _ _))
        fun other missing => ?_
      exact ring_none (by simp [State.input, Callback.input, held])
        (consumerRead_lane config held ok bytes other) missing
  | cqeWritten ticket id publication =>
      refine filed.of_paperwork ((withdraw held rfl).trans (cqeWritten_paperwork config _ _ _ _ _))
        fun other missing => ?_
      exact ring_none (show Input.install {} = none from rfl) (cqeWrite_lane config held ok other) missing
  | ceqeWritten ticket ceqId vector =>
      have aside := ceqeWritten_aside (state.withOutstanding (state.outstanding.eraseIdx index))
        ticket ceqId ok
      refine filed.of_paperwork ((withdraw held rfl).trans aside.paperwork) fun other missing => ?_
      exact (congrFun aside.ring other).trans missing
  | interruptRaised ticket =>
      exact filed.of_paperwork ((withdraw held rfl).trans { Paperwork.refl _ with })
        fun _ missing => missing
  | contextRead command =>
      exact of_applied (filed.clear_of_fire held rfl) (contextRead_applied _ command ok bytes)
  | queryRead command =>
      have clear := filed.clear_of_fire held rfl
      rcases queryRead_cases (state.withOutstanding (state.outstanding.eraseIdx index)) command ok
        bytes with same | ⟨jfc, _, _, _, same⟩
      · rw [Cq.runCallback, same]
        exact of_writeBack clear command 5
      · rw [Cq.runCallback, same]
        refine of_call ?_ rfl (by simp)
        exact { clear with }
  | queryWritten command =>
      exact of_applied (filed.clear_of_fire held rfl) (queryWritten_applied _ command ok)
  | descriptorWritten =>
      have clear := filed.clear_of_fire held rfl
      refine ⟨?_, ?_, clear.jfcDraining.trans ?_, clear.eqDraining.trans ?_⟩
      · change (state.withOutstanding (state.outstanding.eraseIdx index)).mailboxCalls.length +
          (state.withOutstanding (state.outstanding.eraseIdx index)).pendingJfcDestroy.isSome.toNat +
          (state.withOutstanding (state.outstanding.eraseIdx index)).pendingEqDestroy.isSome.toNat =
            0
        rw [clear.calls, clear.jfcDestroy, clear.eqDestroy]
        rfl
      · intro command listed _
        have own : Callback.contextRead command ∈
            (state.withOutstanding (state.outstanding.eraseIdx index)).mailboxCalls :=
          List.mem_filter.mpr ⟨listed, rfl⟩
        rw [clear.calls] at own
        simp at own
      · exact (congrArg (Option.map Command.tag) clear.jfcDestroy).symm
      · exact (congrArg (Option.map Command.tag) clear.eqDestroy).symm

theorem environment {event : Event} (filed : before.Filed)
    (acted : Cq.environment config before event = some after) : after.Filed := by
  cases event with
  | run => simp [Cq.environment] at acted
  | beginPass expired => simp [Cq.environment] at acted
  | fire index ok bytes =>
      simp only [Cq.environment] at acted
      cases held : before.outstanding[index]? with
      | none => simp [held] at acted
      | some callback =>
          simp only [held, Option.some.injEq] at acted
          subst acted
          exact filed.fire held ok bytes
  | writeCqe id cqe =>
      obtain rfl := Option.some.inj acted
      exact filed.of_paperwork (writeCqe_paperwork before id cqe) fun other missing =>
        ring_none (show Input.install {} = none from rfl) (writeCqe_lane config before id cqe other) missing
  | mailbox command =>
      simp only [Cq.environment] at acted
      split at acted
      next => simp at acted
      next idle =>
        obtain rfl := Option.some.inj acted
        exact of_handled (filed.clear_of_idle (by simpa using idle))
          (handleUbaseMailbox_handled config _ command)
  | ceqDoorbell value =>
      obtain rfl := Option.some.inj acted
      have aside := ceqDoorbell_aside before value
      exact filed.of_paperwork aside.paperwork fun other missing =>
        (congrFun aside.ring other).trans missing
  | jfcDoorbell value =>
      obtain rfl := Option.some.inj acted
      have aside := jfcDoorbell_aside config before value
      exact filed.of_paperwork aside.paperwork fun other missing =>
        (congrFun aside.ring other).trans missing
  | advanceTime now =>
      simp only [Cq.environment] at acted
      split at acted
      next =>
        obtain rfl := Option.some.inj acted
        exact filed
      next =>
        obtain rfl := Option.some.inj acted
        exact filed.of_paperwork { Paperwork.refl before with } fun _ missing => missing

theorem step {event : Event} (filed : before.Filed)
    (taken : Cq.step config before event = some after) : after.Filed := by
  rcases step_cases taken with ⟨task, rest, _, ran⟩ | ⟨expired, rest, _, _, rfl⟩ | acted
  · have popped : (before.withStack rest).Filed := { filed with }
    exact popped.runTask ran
  · have popped : (before.withStack rest).Filed := { filed with }
    have aside := beginPass_aside (before.withStack rest) expired
    exact popped.of_paperwork aside.paperwork fun other missing =>
      (congrFun aside.ring other).trans missing
  · exact filed.environment acted

end State.Filed

theorem filed_of_reaches {guard : State → Event → State → Prop}
    (reached : Reaches (step config) guard .initial state) : state.Filed := by
  refine reached.invariant ?_ fun before event after filed taken _ => filed.step taken
  exact ⟨rfl, by simp [State.initial], rfl, rfl⟩

/-- A create command installs a JFC where there is none. -/
theorem State.Filed.install_none {event : Event} {id : Nat} (filed : state.Filed)
    (install : (state.input event).install = some id) : state.ring id = none := by
  cases event with
  | fire index ok bytes =>
      cases held : state.outstanding[index]? with
      | none => simp [State.input, held] at install
      | some callback =>
          cases callback with
          | contextRead command =>
              simp only [State.input, held, Option.map_some, Option.getD_some,
                Callback.input, Option.ite_none_right_eq_some, Option.some.injEq] at install
              obtain ⟨isCreate, rfl⟩ := install
              exact filed.vacant command (List.mem_of_getElem? held) isCreate
          | _ => simp [State.input, held, Callback.input] at install
  | _ => simp [State.input] at install

end Udma.Cq
