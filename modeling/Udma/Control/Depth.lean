import Udma.Control.Moves

/-!
# One command at a time, and the depth of its ring

The busy flags say exactly whether a chain is under way, so there is never more
than one on each queue.  Only the start of a chain looks whether the ring has a
depth; a chain that is under way reads the register again and relies on it.
-/

namespace Udma.Control

open Udma.Abi Udma.Collections Udma.Transition

variable {config : Config} {state after before : State} {event : Event}

/-! ## One chain on each queue -/

/-- Callbacks of the command under way. -/
def Callback.command (callback : Callback) : Bool := callback.early || callback.writesBack

/-- The chains of commands under way: a callback, the code behind a write-back, or a
destroy command that waits. -/
def State.chains (state : State) : Nat :=
  (state.outstanding.filter Callback.command).length + state.stack.count .processNextUbase +
    state.pendingDestroy.isSome.toNat

/-- The chains of messages under way. -/
def State.messages (state : State) : Nat := (state.outstanding.filter Callback.ubios).length

/-- The busy flags are right. -/
structure State.Lone (state : State) : Prop where
  commands : state.chains = state.ubaseBusy.toNat
  messages : state.messages = state.ubiosBusy.toNat

@[simp]
theorem State.chains_emit (state : State) (observations : List Observation) :
    (state.emit observations).chains = state.chains := rfl

@[simp]
theorem State.messages_emit (state : State) (observations : List Observation) :
    (state.emit observations).messages = state.messages := rfl

@[simp]
theorem State.chains_change (state : State) (device : Device) :
    (state.change device).chains = state.chains := rfl

@[simp]
theorem State.messages_change (state : State) (device : Device) :
    (state.change device).messages = state.messages := rfl

@[simp]
theorem State.chains_call (state : State) (callback : Callback) :
    (state.call callback).chains = state.chains + callback.command.toNat := by
  unfold State.chains
  simp only [State.call_outstanding, State.call_stack, State.call_pendingDestroy,
    List.filter_append, List.length_append]
  rw [List.count_cons_of_ne (by decide)]
  cases own : callback.command with
  | true =>
      rw [List.filter_cons_of_pos own]
      simp only [List.filter_nil, List.length_singleton, Bool.toNat_true]
      omega
  | false =>
      rw [List.filter_cons_of_neg (by simp [own])]
      simp

@[simp]
theorem State.messages_call (state : State) (callback : Callback) :
    (state.call callback).messages = state.messages + callback.ubios.toNat := by
  unfold State.messages
  cases own : callback.ubios <;> simp [own]

theorem filter_eraseIdx_length {test : Callback → Bool} {callbacks : List Callback} {index : Nat}
    {callback : Callback} (found : callbacks[index]? = some callback) :
    (callbacks.filter test).length =
      ((callbacks.eraseIdx index).filter test).length + (test callback).toNat := by
  have order := (perm_cons_eraseIdx found).filter test
  rw [order.length_eq]
  cases own : test callback <;> simp [own]

theorem State.chains_withdraw {index : Nat} {callback : Callback}
    (found : state.outstanding[index]? = some callback) :
    state.chains = (state.withdraw index).chains + callback.command.toNat := by
  unfold State.chains
  rw [filter_eraseIdx_length found]
  simp only [State.withdraw_outstanding, State.withdraw_stack, State.withdraw_pendingDestroy]
  omega

theorem State.messages_withdraw {index : Nat} {callback : Callback}
    (found : state.outstanding[index]? = some callback) :
    state.messages = (state.withdraw index).messages + callback.ubios.toNat :=
  filter_eraseIdx_length found

theorem Callback.command_of_early {callback : Callback} (early : callback.early = true) :
    callback.command = true := by
  simp [Callback.command, early]

theorem Callback.ubios_of_early {callback : Callback} (early : callback.early = true) :
    callback.ubios = false := by
  cases callback <;> simp_all [Callback.early, Callback.ubios]

theorem Callback.command_of_ubios {callback : Callback} (own : callback.ubios = true) :
    callback.command = false := by
  cases callback <;> simp_all [Callback.early, Callback.writesBack, Callback.command, Callback.ubios]

/-- A chain that was taken up goes on, or gives the ring back. -/
theorem Outcome.lone (outcome : Outcome state after) (idle : state.chains = 0)
    (busy : state.ubaseBusy = true) (messages : state.messages = state.ubiosBusy.toNat)
    (running : after.crashed = false) : after.Lone := by
  cases outcome with
  | released => exact ⟨idle, messages⟩
  | deferred job =>
      refine ⟨?_, messages⟩
      unfold State.chains at idle ⊢
      simp only [busy, Option.isSome_some, Bool.toNat_true]
      omega
  | waits observations callback silent early =>
      constructor
      · simp [idle, busy, Callback.command_of_early early]
      · simpa [Callback.ubios_of_early early] using messages
  | crashed device zero => simp at running
  | writesBack device address bytes writeBack =>
      constructor
      · rw [State.chains_call, State.chains_emit, State.chains_change, idle]
        simp only [State.call_ubaseBusy, State.emit_ubaseBusy]
        change 0 + 1 = state.ubaseBusy.toNat
        rw [busy]
        rfl
      · rw [State.messages_call, State.messages_emit, State.messages_change]
        exact messages

theorem Message.lone (message : Message state after) (commands : state.chains = state.ubaseBusy.toNat)
    (idle : state.messages = 0) (busy : state.ubiosBusy = true)
    (running : after.crashed = false) : after.Lone := by
  cases message with
  | released words requests same => exact ⟨commands, idle⟩
  | waits words requests callback same own =>
      constructor
      · rw [State.chains_call, Callback.command_of_ubios own]
        exact commands
      · rw [State.messages_call, own]
        change state.messages + 1 = state.ubiosBusy.toNat
        rw [idle, busy]
        rfl
  | crashed requests zero => simp at running

/-- The callback of a busy queue was the only one. -/
theorem State.Lone.taken (lone : state.Lone) {index : Nat} {callback : Callback}
    (found : state.outstanding[index]? = some callback) (own : callback.command = true) :
    (state.withdraw index).chains = 0 ∧ state.ubaseBusy = true ∧
      (state.withdraw index).messages = state.ubiosBusy.toNat := by
  have counted := State.chains_withdraw found
  have others := State.messages_withdraw found
  have plain : callback.ubios = false := by
    by_contra message
    have := Callback.command_of_ubios (by simpa using message)
    simp [own] at this
  rw [lone.commands, own] at counted
  rw [lone.messages, plain] at others
  have bound := Bool.toNat_le state.ubaseBusy
  rw [Bool.toNat_true] at counted
  exact ⟨by omega, Bool.toNat_eq_one.mp (by omega), by simpa using others.symm⟩

theorem State.Lone.kept_withdraw (lone : state.Lone) {index : Nat} {callback : Callback}
    (found : state.outstanding[index]? = some callback) (plain : callback.command = false)
    (other : callback.ubios = false) : (state.withdraw index).Lone := by
  have counted := State.chains_withdraw found
  have others := State.messages_withdraw found
  rw [plain] at counted
  rw [other] at others
  exact ⟨counted.symm.trans lone.commands, others.symm.trans lone.messages⟩

theorem State.chains_withStack {task : Task} {rest : List Task}
    (top : state.stack = task :: rest) :
    state.chains = (state.withStack rest).chains + (if task = .processNextUbase then 1 else 0) := by
  unfold State.chains
  rw [top, List.count_cons]
  simp only [State.withStack_outstanding, State.withStack_stack, State.withStack_pendingDestroy,
    beq_iff_eq]
  omega

/-- What is not part of a command chain keeps the flags right. -/
theorem State.Lone.of_eq (lone : state.Lone) (chains : after.chains = state.chains)
    (messages : after.messages = state.messages) (busy : after.ubaseBusy = state.ubaseBusy)
    (other : after.ubiosBusy = state.ubiosBusy) : after.Lone :=
  ⟨by rw [chains, busy, lone.commands], by rw [messages, other, lone.messages]⟩

theorem issueBlock_chains (state : State) (emission : Emission) :
    (issueBlock state emission).chains = state.chains ∧
      (issueBlock state emission).messages = state.messages ∧
      (issueBlock state emission).ubaseBusy = state.ubaseBusy ∧
      (issueBlock state emission).ubiosBusy = state.ubiosBusy := by
  unfold issueBlock
  split
  · refine ⟨?_, ?_, rfl, rfl⟩
    · rw [State.chains_call]
      rfl
    · rw [State.messages_call]
      rfl
  · refine ⟨?_, ?_, rfl, rfl⟩
    · rw [State.chains_call]
      rfl
    · rw [State.messages_call]
      rfl

theorem emitCtrlqResponse_chains (state : State) (event : Bytes) :
    (emitCtrlqResponse state event).chains = state.chains ∧
      (emitCtrlqResponse state event).messages = state.messages ∧
      (emitCtrlqResponse state event).ubaseBusy = state.ubaseBusy ∧
      (emitCtrlqResponse state event).ubiosBusy = state.ubiosBusy := by
  unfold emitCtrlqResponse
  split
  · exact ⟨rfl, rfl, rfl, rfl⟩
  · exact issueBlock_chains _ _

theorem After.tasks_count (following : After) :
    following.tasks.count .processNextUbase = 0 := by
  cases following with
  | nothing => rfl
  | ctrlqResponse event => simp [After.tasks]
  | mailboxEvent sequence => simp [After.tasks]

/-- The write-back goes on, and at its end the next command is looked for. -/
theorem issueRecord_lone (writeBack : WriteBack) (idle : state.chains = 0)
    (busy : state.ubaseBusy = true) (messages : state.messages = state.ubiosBusy.toNat) :
    (issueRecord state writeBack).Lone := by
  unfold issueRecord
  split
  · constructor
    · unfold State.chains at idle ⊢
      simp only [State.push_outstanding, State.push_stack, State.push_pendingDestroy,
        State.push_ubaseBusy, List.count_append, busy, After.tasks_count]
      rw [List.count_cons_self, List.count_nil, Bool.toNat_true]
      omega
    · exact messages
  · constructor
    · rw [State.chains_call, State.chains_emit, idle]
      change 0 + 1 = state.ubaseBusy.toNat
      rw [busy]
      rfl
    · rw [State.messages_call, State.messages_emit]
      exact messages

theorem Stepped.lone (stepped : Stepped config before event after) (lone : before.Lone)
    (running : after.crashed = false) : after.Lone := by
  cases stepped with
  | returned rest top =>
      have counted := State.chains_withStack top
      simp only [reduceCtorEq, if_false, Nat.add_zero] at counted
      exact lone.of_eq counted.symm rfl rfl rfl
  | responding event rest top =>
      have counted := State.chains_withStack top
      simp only [reduceCtorEq, if_false, Nat.add_zero] at counted
      obtain ⟨chains, messages, busy, other⟩ := emitCtrlqResponse_chains (before.withStack rest) event
      exact lone.of_eq (chains.trans counted.symm) messages busy other
  | notifying sequence rest top =>
      have counted := State.chains_withStack top
      simp only [reduceCtorEq, if_false, Nat.add_zero] at counted
      refine lone.of_eq ?_ rfl rfl rfl
      rw [counted]
      unfold State.chains
      simp
  | next rest top outcome =>
      have counted := State.chains_withStack top
      rw [if_pos rfl, lone.commands] at counted
      have bound := Bool.toNat_le before.ubaseBusy
      exact outcome.lone (by omega) (Bool.toNat_eq_one.mp (by
        change before.ubaseBusy.toNat = 1
        omega)) lone.messages running
  | command index ok bytes callback found early outcome =>
      obtain ⟨idle, busy, messages⟩ := lone.taken found (Callback.command_of_early early)
      exact outcome.lone idle busy messages running
  | recordWritten index bytes writeBack found =>
      obtain ⟨idle, busy, messages⟩ := lone.taken found rfl
      exact issueRecord_lone writeBack idle busy messages
  | recordFailed index bytes writeBack found =>
      obtain ⟨idle, _, messages⟩ := lone.taken found rfl
      exact ⟨idle, messages⟩
  | blockWritten index bytes emission found =>
      have kept := lone.kept_withdraw found rfl rfl
      obtain ⟨chains, messages, busy, other⟩ := issueBlock_chains (before.withdraw index) emission
      exact kept.of_eq chains messages busy other
  | blockFailed index bytes emission found => exact lone.kept_withdraw found rfl rfl
  | interruptRaised index ok bytes found => exact lone.kept_withdraw found rfl rfl
  | message index ok bytes callback found own message =>
      have counted := State.chains_withdraw found
      have others := State.messages_withdraw found
      rw [Callback.command_of_ubios own, Bool.toNat_false, Nat.add_zero, lone.commands] at counted
      rw [own, lone.messages, Bool.toNat_true] at others
      have bound := Bool.toNat_le before.ubiosBusy
      exact message.lone counted.symm (by omega) (Bool.toNat_eq_one.mp (by
        change before.ubiosBusy.toNat = 1
        omega)) running
  | writtenUbase offset length value target words kept => exact lone.of_eq rfl rfl rfl rfl
  | kickedUbase value idle =>
      refine (processNextUbase_outcome _).lone ?_ rfl lone.messages running
      change before.chains = 0
      rw [lone.commands, idle]
      rfl
  | writtenUbios offset length value target words => exact lone.of_eq rfl rfl rfl rfl
  | kickedUbios value idle =>
      refine (processNextUbios_message { before.withUbios (before.ubios.write 0x08 4 value)
        (value % 2 ^ 32) with ubiosBusy := true } _ rfl).lone lone.commands ?_ rfl running
      change before.messages = 0
      rw [lone.messages, idle]
      rfl
  | idle none => exact lone
  | drained job found outcome =>
      have counted := lone.commands
      unfold State.chains at counted
      rw [found, Option.isSome_some, Bool.toNat_true] at counted
      have bound := Bool.toNat_le before.ubaseBusy
      refine outcome.lone ?_ (Bool.toNat_eq_one.mp ?_) lone.messages running
      · unfold State.chains
        simp only [Option.isSome_none, Bool.toNat_false]
        omega
      · change before.ubaseBusy.toNat = 1
        omega
  | elsewhere event busy linkUp pendingRma device => exact lone.of_eq rfl rfl rfl rfl

theorem lone_of_reaches {guard : State → Event → State → Prop}
    (reached : Reaches (step config) guard (.initial config) state)
    (running : state.crashed = false) : state.Lone := by
  refine reached.induction_on (fun state => state.crashed = false → state.Lone) ?_ ?_ running
  · intro _
    exact ⟨rfl, rfl⟩
  · intro before event after _ lone taken _ running
    obtain ⟨alive, stepped⟩ := step_stepped taken
    exact stepped.lone (lone alive) running

/-! ## The depth -/

/-- The guest does not take the depth away from a queue that is at work. -/
def DepthKept (before : State) (event : Event) (after : State) : Prop :=
  match event with
  | .writeUbase _ _ _ => before.ubaseBusy = true → after.csqDepth ≠ 0
  | .writeUbios _ _ _ => before.ubiosBusy = true → after.ubios 4 ≠ 0
  | _ => True

instance (before : State) (event : Event) (after : State) :
    Decidable (DepthKept before event after) :=
  match event with
  | .writeUbase _ _ _ => inferInstanceAs (Decidable (_ → _))
  | .writeUbios _ _ _ => inferInstanceAs (Decidable (_ → _))
  | .run | .fire _ _ _ | .drained | .setBusy _ _ _ | .setLinkState _ _ | .setPendingRma _ =>
      .isTrue trivial

/-- A queue at work has a depth, and no modulo was by zero. -/
structure State.Deep (state : State) : Prop where
  running : state.crashed = false
  ubase : state.ubaseBusy = true → state.csqDepth ≠ 0
  ubios : state.ubiosBusy = true → state.ubios 4 ≠ 0

theorem Outcome.deep (outcome : Outcome state after) (deep : state.Deep)
    (busy : state.ubaseBusy = true) : after.Deep := by
  cases outcome with
  | released => exact ⟨deep.running, by simp, deep.ubios⟩
  | deferred job => exact ⟨deep.running, deep.ubase, deep.ubios⟩
  | waits observations callback silent early => exact ⟨deep.running, deep.ubase, deep.ubios⟩
  | crashed device zero => exact absurd zero (deep.ubase busy)
  | writesBack device address bytes writeBack => exact ⟨deep.running, deep.ubase, deep.ubios⟩

theorem Message.deep (message : Message state after) (deep : state.Deep)
    (busy : state.ubiosBusy = true) : after.Deep := by
  cases message with
  | released words requests same => exact ⟨deep.running, deep.ubase, by simp⟩
  | waits words requests callback same own =>
      refine ⟨deep.running, deep.ubase, ?_⟩
      intro active
      change words 4 ≠ 0
      rw [same]
      exact deep.ubios active
  | crashed requests zero => exact absurd zero (deep.ubios busy)

/-- A chain begins only on a ring that has a depth. -/
theorem processNextUbase_deep (running : state.crashed = false)
    (ubios : state.ubiosBusy = true → state.ubios 4 ≠ 0) : (processNextUbase state).Deep := by
  unfold processNextUbase
  split
  · exact ⟨running, by simp, ubios⟩
  next depth =>
    split
    · exact ⟨running, by simp, ubios⟩
    · split
      · exact ⟨running, by simp, ubios⟩
      · exact ⟨running, fun _ => depth, ubios⟩

theorem processNextUbios_deep (running : state.crashed = false)
    (ubase : state.ubaseBusy = true → state.csqDepth ≠ 0) : (processNextUbios state).Deep := by
  unfold processNextUbios
  simp only
  split
  · exact ⟨running, ubase, by simp [failUbios]⟩
  next depth =>
    split
    · exact ⟨running, ubase, by simp [failUbios]⟩
    · split
      · exact ⟨running, ubase, by simp [failUbios]⟩
      · exact ⟨running, ubase, fun _ => depth⟩

/-- The device never stores the depths. -/
theorem issueRecord_deep (writeBack : WriteBack) (deep : state.Deep) :
    (issueRecord state writeBack).Deep := by
  unfold issueRecord
  split
  · refine ⟨deep.running, ?_, deep.ubios⟩
    intro busy
    unfold State.csqDepth
    simp only [State.push_ubase]
    rw [Words.store_other _ _ (by decide), Words.store_other _ _ (by decide)]
    exact deep.ubase busy
  · exact ⟨deep.running, deep.ubase, deep.ubios⟩

theorem issueBlock_deep (emission : Emission) (deep : state.Deep) :
    (issueBlock state emission).Deep := by
  unfold issueBlock
  split
  · refine ⟨deep.running, ?_, deep.ubios⟩
    intro busy
    unfold State.csqDepth
    simp only [State.call_ubase, State.emit_ubase]
    rw [Words.store_other _ _ (by decide)]
    exact deep.ubase busy
  · exact ⟨deep.running, deep.ubase, deep.ubios⟩

theorem Stepped.deep (stepped : Stepped config before event after) (lone : before.Lone)
    (deep : before.Deep) (kept : DepthKept before event after) : after.Deep := by
  cases stepped with
  | returned rest top => exact ⟨deep.running, deep.ubase, deep.ubios⟩
  | responding event rest top =>
      unfold emitCtrlqResponse
      split
      · exact ⟨deep.running, deep.ubase, deep.ubios⟩
      · exact issueBlock_deep _ ⟨deep.running, deep.ubase, deep.ubios⟩
  | notifying sequence rest top => exact ⟨deep.running, deep.ubase, deep.ubios⟩
  | next rest top outcome =>
      have counted := State.chains_withStack top
      rw [if_pos rfl, lone.commands] at counted
      have bound := Bool.toNat_le before.ubaseBusy
      have popped : (before.withStack rest).Deep := ⟨deep.running, deep.ubase, deep.ubios⟩
      exact outcome.deep popped (Bool.toNat_eq_one.mp (by
        change before.ubaseBusy.toNat = 1
        omega))
  | command index ok bytes callback found early outcome =>
      have left : (before.withdraw index).Deep := ⟨deep.running, deep.ubase, deep.ubios⟩
      exact outcome.deep left (lone.taken found (Callback.command_of_early early)).2.1
  | recordWritten index bytes writeBack found =>
      exact issueRecord_deep writeBack ⟨deep.running, deep.ubase, deep.ubios⟩
  | recordFailed index bytes writeBack found => exact ⟨deep.running, by simp, deep.ubios⟩
  | blockWritten index bytes emission found =>
      exact issueBlock_deep emission ⟨deep.running, deep.ubase, deep.ubios⟩
  | blockFailed index bytes emission found => exact ⟨deep.running, deep.ubase, deep.ubios⟩
  | interruptRaised index ok bytes found => exact ⟨deep.running, deep.ubase, deep.ubios⟩
  | message index ok bytes callback found own message =>
      have others := State.messages_withdraw found
      rw [own, lone.messages, Bool.toNat_true] at others
      have bound := Bool.toNat_le before.ubiosBusy
      have left : (before.withdraw index).Deep := ⟨deep.running, deep.ubase, deep.ubios⟩
      exact message.deep left (Bool.toNat_eq_one.mp (by
        change before.ubiosBusy.toNat = 1
        omega))
  | writtenUbase offset length value target words same => exact ⟨deep.running, kept, deep.ubios⟩
  | kickedUbase value idle => exact processNextUbase_deep deep.running deep.ubios
  | writtenUbios offset length value target words => exact ⟨deep.running, deep.ubase, kept⟩
  | kickedUbios value idle => exact processNextUbios_deep deep.running deep.ubase
  | idle none => exact deep
  | drained job found outcome =>
      have counted := lone.commands
      unfold State.chains at counted
      rw [found, Option.isSome_some, Bool.toNat_true] at counted
      have bound := Bool.toNat_le before.ubaseBusy
      have freed : ({ before with pendingDestroy := none } : State).Deep :=
        ⟨deep.running, deep.ubase, deep.ubios⟩
      exact outcome.deep freed (Bool.toNat_eq_one.mp (by
        change before.ubaseBusy.toNat = 1
        omega))
  | elsewhere event busy linkUp pendingRma device => exact ⟨deep.running, deep.ubase, deep.ubios⟩

theorem deep_of_reaches (reached : Reaches (step config) DepthKept (.initial config) state) :
    state.Deep := by
  refine reached.induction_on State.Deep ?_ ?_
  · exact ⟨rfl, by simp [State.initial], by simp [State.initial]⟩
  · intro before event after earlier deep taken kept
    obtain ⟨_, stepped⟩ := step_stepped taken
    exact stepped.deep (lone_of_reaches earlier deep.running) deep kept

/-- As long as the guest leaves a depth to the queues at work, no depth that a modulo is
taken by is zero. -/
theorem no_modulo_by_zero (reached : Reaches (step config) DepthKept (.initial config) state) :
    state.crashed = false := (deep_of_reaches reached).running

/-! ## A small instance -/

/-- Two ports; every message has an empty answer. -/
def Config.small : Config where
  portCount := 2
  endpointEid := 0x100
  maxJettys := 16
  publicJettys := 1
  maxJfsDepth := 64
  maxJfrDepth := 64
  maxJfcDepth := 64
  buildUbiosResponse := fun _ _ opcode _ => some ([], opcode)

/-- The driver sets up the two rings of the command queue, with eight entries each. -/
def ringsUp : List Event :=
  [.writeUbase 0x00 4 0x1000, .writeUbase 0x08 4 1, .writeUbase 0x18 4 0x2000,
    .writeUbase 0x20 4 1]

/-- A CtrlQ command of `count` descriptors; its request has `input` bytes and asks for
`output` bytes. -/
def ctrlqDescriptor (count input output service opcode : Nat) : Bytes :=
  [0x0e, 0xf0, 0, UInt8.ofNat count] ++ List.replicate 4 0 ++ List.replicate 4 0 ++ store32 3 ++
    List.replicate 2 0 ++ store16 input ++ store16 output ++ List.replicate 2 0 ++
    [0, UInt8.ofNat service, 0, UInt8.ofNat opcode] ++ List.replicate 4 0

/-- The query of the virtual lanes, in two descriptors. -/
def queryVl : Bytes := ctrlqDescriptor 2 0 20 4 1

/-- The doorbell of a command of two descriptors, with its fetch. -/
def queryFetched : List Event := [.writeUbase 0x10 4 2, .run, .fire 0 true queryVl, .run]

/-- The depth is set to another value while the command is at work, and the command is
written back. -/
theorem depth_kept_while_fetching :
    ∃ state, Reaches (step .small) DepthKept (.initial .small) state ∧ state.serial = 1 ∧
      state.csqDepth = 16 ∧ state.crashed = false := by
  obtain ⟨state, reached, seen⟩ := exists_of_execute
    (show (execute (step .small) DepthKept
        (ringsUp ++ queryFetched ++ [.writeUbase 0x08 4 2, .fire 0 true (List.replicate 32 0), .run,
          .fire 0 true []]) (.initial .small)).map (fun state => (state.serial, state.csqDepth)) =
      some (1, 16) by decide +kernel)
  obtain ⟨written, depth⟩ := Prod.mk.inj seen
  exact ⟨state, reached, written, depth, no_modulo_by_zero reached⟩

/-- The depth is taken away between the fetch of a descriptor and its callback. -/
theorem zero_depth_while_fetching :
    ∃ state, Reaches (step .small) always (.initial .small) state ∧ state.crashed = true := by
  obtain ⟨state, reached, seen⟩ := exists_of_execute
    (show (execute (step .small) always
        (ringsUp ++ [.writeUbase 0x10 4 2, .run, .writeUbase 0x08 4 0, .fire 0 true queryVl])
        (.initial .small)).map State.crashed = some true by decide +kernel)
  exact ⟨state, reached, seen⟩

end Udma.Control
