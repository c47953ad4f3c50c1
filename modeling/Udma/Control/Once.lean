import Udma.Control.Depth

/-!
# A command changes the device once

The command at the head of the ring is the one with the number `serial`, and it is
counted as done when it has been written back.  A command that changed the device
is in its write-back from then on, so the change is not made again unless the
write-back is given up.
-/

namespace Udma.Control

open Udma.Abi Udma.Collections Udma.Transition

variable {config : Config} {state after before : State} {event : Event}

/-- The command that made a change. -/
def Observation.change : Observation → Option Nat
  | .changed serial => some serial
  | _ => none

/-- The commands that changed the device, one entry for each change. -/
def changesOf (trace : List Observation) : List Nat := trace.filterMap Observation.change

@[simp]
theorem changesOf_append (trace more : List Observation) :
    changesOf (trace ++ more) = changesOf trace ++ changesOf more := List.filterMap_append

/-- Some command is being written back. -/
def State.writing (state : State) : Bool := state.outstanding.any Callback.writesBack

/-- No change was made twice, and none by a command that has yet to be carried out. -/
structure State.Sparing (state : State) : Prop where
  distinct : (changesOf state.trace).Nodup
  known : state.crashed = false → ∀ serial ∈ changesOf state.trace,
    serial < state.serial ∨ serial = state.serial ∧ state.writing = true

/-- Nothing of the command at the head of the ring has been carried out. -/
structure State.Unchanged (state : State) : Prop where
  distinct : (changesOf state.trace).Nodup
  below : ∀ serial ∈ changesOf state.trace, serial < state.serial

theorem State.writing_of_chains (idle : state.chains = 0) : state.writing = false := by
  unfold State.chains at idle
  have none : state.outstanding.filter Callback.command = [] :=
    List.length_eq_zero_iff.mp (by omega)
  unfold State.writing
  rw [List.any_eq_false]
  intro callback membership writes
  have own := List.filter_eq_nil_iff.mp none callback membership
  simp [Callback.command, writes] at own

theorem State.Sparing.unchanged (sparing : state.Sparing) (running : state.crashed = false)
    (idle : state.writing = false) : state.Unchanged where
  distinct := sparing.distinct
  below := by
    intro serial membership
    rcases sparing.known running serial membership with less | ⟨_, writes⟩
    · exact less
    · simp [idle] at writes

theorem State.Unchanged.sparing (unchanged : state.Unchanged) : state.Sparing :=
  ⟨unchanged.distinct, fun _ serial membership => .inl (unchanged.below serial membership)⟩

/-- What leaves the changes, the numbering and the write-back alone. -/
theorem State.Sparing.of_eq (sparing : state.Sparing)
    (changes : changesOf after.trace = changesOf state.trace) (serial : after.serial = state.serial)
    (writing : state.writing = true → after.writing = true)
    (running : after.crashed = false → state.crashed = false) : after.Sparing where
  distinct := by rw [changes]; exact sparing.distinct
  known := by
    intro alive number membership
    rw [changes] at membership
    rw [serial]
    exact (sparing.known (running alive) number membership).imp_right
      fun ⟨same, writes⟩ => ⟨same, writing writes⟩

theorem State.changes_change (state : State) (device : Device) :
    changesOf (state.change device).trace = changesOf state.trace ∨
      changesOf (state.change device).trace = changesOf state.trace ++ [state.serial] := by
  unfold State.change
  simp only [State.emit_trace, changesOf_append]
  split
  · exact .inl (by simp [changesOf])
  · exact .inr (by simp [changesOf, Observation.change])

/-- The command at the head changes the device for the first time. -/
theorem State.Unchanged.change (unchanged : state.Unchanged) (device : Device) :
    (changesOf (state.change device).trace).Nodup ∧
      ∀ serial ∈ changesOf (state.change device).trace, serial ≤ state.serial := by
  rcases state.changes_change device with same | more
  · rw [same]
    exact ⟨unchanged.distinct, fun serial membership => (unchanged.below serial membership).le⟩
  · rw [more]
    constructor
    · rw [List.nodup_append]
      refine ⟨unchanged.distinct, List.nodup_singleton _, ?_⟩
      intro serial membership last own
      rw [List.mem_singleton] at own
      exact (own ▸ (unchanged.below serial membership).ne)
    · intro serial membership
      rcases List.mem_append.mp membership with earlier | own
      · exact (unchanged.below serial earlier).le
      · exact (List.mem_singleton.mp own).le

theorem changesOf_ring {observations : List Observation}
    (silent : ∀ observation ∈ observations, observation.ring = true) :
    changesOf observations = [] := by
  refine List.filterMap_eq_nil_iff.mpr ?_
  intro observation membership
  have own := silent observation membership
  cases observation <;> simp_all [Observation.ring, Observation.change]

theorem Outcome.sparing (outcome : Outcome state after) (unchanged : state.Unchanged) :
    after.Sparing := by
  cases outcome with
  | released =>
      have kept : state.release.Unchanged := ⟨unchanged.distinct, unchanged.below⟩
      exact kept.sparing
  | deferred job =>
      have kept : ({ state with pendingDestroy := some job } : State).Unchanged :=
        ⟨unchanged.distinct, unchanged.below⟩
      exact kept.sparing
  | waits observations callback silent early =>
      have same : changesOf ((state.emit observations).call callback).trace =
          changesOf state.trace := by
        simp [changesOf_ring silent]
      have kept : ((state.emit observations).call callback).Unchanged :=
        ⟨same ▸ unchanged.distinct, same ▸ unchanged.below⟩
      exact kept.sparing
  | crashed device zero => exact ⟨(unchanged.change device).1, by simp⟩
  | writesBack device address bytes writeBack =>
      obtain ⟨distinct, bound⟩ := unchanged.change device
      have same : changesOf (((state.change device).emit [.csqDma address bytes]).call
          (.recordWritten writeBack)).trace = changesOf (state.change device).trace := by
        simp [changesOf, Observation.change]
      refine ⟨same ▸ distinct, ?_⟩
      intro _ serial membership
      rw [same] at membership
      rcases (bound serial membership).lt_or_eq with less | own
      · exact .inl less
      · exact .inr ⟨own, by simp [State.writing, Callback.writesBack]⟩

/-! ## The write-back -/

/-- The write-back of a command that changed the device does not fail. -/
def ChangesWrittenBack (before : State) (event : Event) (_after : State) : Prop :=
  match event with
  | .fire index false _ =>
      (before.outstanding[index]?).any Callback.writesBack = true →
        before.serial ∉ changesOf before.trace
  | _ => True

instance (before : State) (event : Event) (after : State) :
    Decidable (ChangesWrittenBack before event after) :=
  match event with
  | .fire _ false _ => inferInstanceAs (Decidable (_ → _))
  | .fire _ true _ | .run | .writeUbase _ _ _ | .writeUbios _ _ _ | .drained | .setBusy _ _ _
  | .setLinkState _ _ | .setPendingRma _ => .isTrue trivial

theorem State.writing_withdraw {index : Nat} {callback : Callback}
    (found : state.outstanding[index]? = some callback) (other : callback.writesBack = false)
    (writes : state.writing = true) : (state.withdraw index).writing = true := by
  unfold State.writing at writes ⊢
  obtain ⟨held, membership, own⟩ := List.any_eq_true.mp writes
  refine List.any_eq_true.mpr ⟨held, ?_, own⟩
  rcases List.mem_cons.mp ((perm_cons_eraseIdx found).mem_iff.mp membership) with same | present
  · subst same
    simp [other] at own
  · exact present

theorem issueRecord_sparing (writeBack : WriteBack) (distinct : (changesOf state.trace).Nodup)
    (bound : ∀ serial ∈ changesOf state.trace, serial ≤ state.serial) :
    (issueRecord state writeBack).Sparing := by
  unfold issueRecord
  split
  · refine ⟨distinct, ?_⟩
    intro _ serial membership
    exact .inl (Nat.lt_succ_of_le (bound serial membership))
  next address bytes rest _ =>
    have same : changesOf ((state.emit [.csqDma address bytes]).call
        (.recordWritten { writeBack with writes := rest })).trace = changesOf state.trace := by
      simp [changesOf, Observation.change]
    refine ⟨same ▸ distinct, ?_⟩
    intro _ serial membership
    rw [same] at membership
    rcases (bound serial membership).lt_or_eq with less | own
    · exact .inl less
    · exact .inr ⟨own, by simp [State.writing, Callback.writesBack]⟩

theorem State.writing_call (callback : Callback) (writes : state.writing = true) :
    (state.call callback).writing = true := by
  unfold State.writing at writes ⊢
  simp [writes]

theorem issueBlock_sparing (emission : Emission) (sparing : state.Sparing) :
    (issueBlock state emission).Sparing := by
  unfold issueBlock
  split
  · refine sparing.of_eq ?_ rfl (fun writes => State.writing_call _ writes) id
    simp [changesOf, Observation.change]
  · refine sparing.of_eq ?_ rfl (fun writes => State.writing_call _ writes) id
    simp [changesOf, Observation.change]

theorem Message.sparing (message : Message state after) (sparing : state.Sparing) :
    after.Sparing := by
  cases message with
  | released words requests same => exact sparing.of_eq rfl rfl id id
  | waits words requests callback same own =>
      exact sparing.of_eq rfl rfl (fun writes => State.writing_call _ writes) id
  | crashed requests zero => exact ⟨sparing.distinct, by simp⟩

theorem Stepped.sparing (stepped : Stepped config before event after)
    (running : before.crashed = false) (lone : before.Lone) (sparing : before.Sparing)
    (writtenBack : ChangesWrittenBack before event after) : after.Sparing := by
  cases stepped with
  | returned rest top => exact sparing.of_eq rfl rfl id id
  | responding event rest top =>
      have popped : (before.withStack rest).Sparing := sparing.of_eq rfl rfl id id
      unfold emitCtrlqResponse
      split
      · exact popped
      · refine issueBlock_sparing _ (popped.of_eq ?_ rfl id id)
        simp [changesOf, Observation.change]
  | notifying sequence rest top =>
      refine sparing.of_eq ?_ rfl id id
      simp [changesOf, Observation.change]
  | next rest top outcome =>
      have popped : (before.withStack rest).Sparing := sparing.of_eq rfl rfl id id
      have counted := State.chains_withStack top
      rw [if_pos rfl, lone.commands] at counted
      have bound := Bool.toNat_le before.ubaseBusy
      exact outcome.sparing (popped.unchanged running (State.writing_of_chains (by omega)))
  | command index ok bytes callback found early outcome =>
      have plain : callback.writesBack = false := by
        cases callback <;> simp_all [Callback.early, Callback.writesBack]
      have left : (before.withdraw index).Sparing :=
        sparing.of_eq rfl rfl (State.writing_withdraw found plain) id
      have idle := (lone.taken found (Callback.command_of_early early)).1
      exact outcome.sparing (left.unchanged running (State.writing_of_chains idle))
  | recordWritten index bytes writeBack found =>
      refine issueRecord_sparing writeBack sparing.distinct ?_
      intro serial membership
      rcases sparing.known running serial membership with less | ⟨same, _⟩
      · exact less.le
      · exact same.le
  | recordFailed index bytes writeBack found =>
      have untouched : before.serial ∉ changesOf before.trace :=
        writtenBack (by simp [found, Callback.writesBack])
      refine ⟨sparing.distinct, ?_⟩
      intro _ serial membership
      rcases sparing.known running serial membership with less | ⟨same, _⟩
      · exact .inl less
      · exact absurd (same ▸ membership) untouched
  | blockWritten index bytes emission found =>
      exact issueBlock_sparing emission
        (sparing.of_eq rfl rfl (State.writing_withdraw found rfl) id)
  | blockFailed index bytes emission found =>
      exact sparing.of_eq rfl rfl (State.writing_withdraw found rfl) id
  | interruptRaised index ok bytes found =>
      exact sparing.of_eq rfl rfl (State.writing_withdraw found rfl) id
  | message index ok bytes callback found own message =>
      have plain : callback.writesBack = false := by
        cases callback <;> simp_all [Callback.ubios, Callback.writesBack]
      exact message.sparing (sparing.of_eq rfl rfl (State.writing_withdraw found plain) id)
  | writtenUbase offset length value target words same => exact sparing.of_eq rfl rfl id id
  | kickedUbase value idle =>
      have none : before.chains = 0 := by
        rw [lone.commands, idle]
        rfl
      have unchanged := sparing.unchanged running (State.writing_of_chains none)
      exact (processNextUbase_outcome _).sparing ⟨unchanged.distinct, unchanged.below⟩
  | writtenUbios offset length value target words => exact sparing.of_eq rfl rfl id id
  | kickedUbios value idle =>
      refine (processNextUbios_message { before.withUbios (before.ubios.write 0x08 4 value)
        (value % 2 ^ 32) with ubiosBusy := true } _ rfl).sparing ?_
      exact sparing.of_eq rfl rfl id id
  | idle none => exact sparing
  | drained job found outcome =>
      have counted := lone.commands
      unfold State.chains at counted
      rw [found, Option.isSome_some, Bool.toNat_true] at counted
      have bound := Bool.toNat_le before.ubaseBusy
      have freed : ({ before with pendingDestroy := none } : State).Sparing :=
        sparing.of_eq rfl rfl id id
      refine outcome.sparing (freed.unchanged running (State.writing_of_chains ?_))
      unfold State.chains
      simp only [Option.isSome_none, Bool.toNat_false]
      omega
  | elsewhere event busy linkUp pendingRma device => exact sparing.of_eq rfl rfl id id

theorem sparing_of_reaches
    (reached : Reaches (step config) ChangesWrittenBack (.initial config) state) :
    state.Sparing := by
  refine reached.induction_on State.Sparing ?_ ?_
  · exact ⟨List.nodup_nil, by simp [State.initial, changesOf]⟩
  · intro before event after earlier sparing taken writtenBack
    obtain ⟨running, stepped⟩ := step_stepped taken
    exact stepped.sparing running (lone_of_reaches earlier running) sparing writtenBack

/-- As long as the commands that changed the device are written back, each command changes
it at most once.  A command that changes nothing, such as a query, may be fetched and carried
out again when its write-back has failed. -/
theorem command_changes_once
    (reached : Reaches (step config) ChangesWrittenBack (.initial config) state) :
    (changesOf state.trace).Nodup := (sparing_of_reaches reached).distinct

/-! ## The allocation of a TP -/

/-- The command that asks for a TP, in three descriptors. -/
def getTpDescriptor : Bytes := ctrlqDescriptor 3 36 44 1 0x21

/-- Its parameters: the local EID is 5 and the remote EID is 6. -/
def getTpParameters : Bytes :=
  List.replicate 4 0 ++ store32 5 ++ List.replicate 12 0 ++ store32 6 ++ List.replicate 8 0

/-- The doorbell, and the command up to its write-back. -/
def getTpApplied : List Event :=
  [.writeUbase 0x10 4 3, .run, .fire 0 true getTpDescriptor, .run, .fire 0 true getTpParameters,
    .run, .fire 0 true (List.replicate 32 0), .run]

theorem tp_allocated_once :
    ∃ state, Reaches (step .small) ChangesWrittenBack (.initial .small) state ∧
      changesOf state.trace = [0] ∧ state.serial = 1 ∧ (changesOf state.trace).Nodup := by
  obtain ⟨state, reached, seen⟩ := exists_of_execute
    (show (execute (step .small) ChangesWrittenBack
        (ringsUp ++ getTpApplied ++ [.fire 0 true []]) (.initial .small)).map
        (fun state => (changesOf state.trace, state.serial)) = some ([0], 1) by decide +kernel)
  obtain ⟨changes, serial⟩ := Prod.mk.inj seen
  exact ⟨state, reached, changes, serial, command_changes_once reached⟩

/-- The write-back fails after the TP was allocated; the next doorbell fetches the same
descriptor, and a second TP is allocated for it. -/
theorem failed_write_back_allocates_again :
    ∃ state, Reaches (step .small) always (.initial .small) state ∧ state.serial = 0 ∧
      state.device.tpRoutes.map (·.id) = [1, 2] ∧ changesOf state.trace = [0, 0] ∧
      ¬ (changesOf state.trace).Nodup := by
  obtain ⟨state, reached, seen⟩ := exists_of_execute
    (show (execute (step .small) always
        (ringsUp ++ getTpApplied ++ [.fire 0 false []] ++ getTpApplied) (.initial .small)).map
        (fun state => (state.serial, state.device.tpRoutes.map (·.id), changesOf state.trace)) =
      some (0, [1, 2], [0, 0]) by decide +kernel)
  obtain ⟨serial, rest⟩ := Prod.mk.inj seen
  obtain ⟨routes, changes⟩ := Prod.mk.inj rest
  refine ⟨state, reached, serial, routes, changes, ?_⟩
  rw [changes]
  decide

end Udma.Control
