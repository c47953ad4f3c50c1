import Udma.Abi.Words
import Udma.Cq.Landing
import Udma.Cq.Safety

/-!
# The CQE writes of one JFC

What the context of a JFC says of its CQE writes, next to the writes in the hands of the host
and the slots that the trace shows.  `Account.Move` lists what a step can do to them, with the
outcome of the write that the step ends.
-/

namespace Udma.Cq

open Udma.Abi Udma.Arithmetic Udma.Collections Udma.Transition

structure Tally where
  generation : Nat
  producer : Nat
  writePending : Bool
  deriving DecidableEq, Repr

def Jfc.tally (jfc : Jfc) : Tally := ⟨jfc.generation, jfc.producer, jfc.cqeWritePending⟩

def State.tally (state : State) (id : Nat) : Option Tally := (state.jfcs.lookup id).map Jfc.tally

def State.writing (state : State) (id : Nat) : List Publication :=
  state.outstanding.filterMap (Callback.writing id)

/-- A step that leaves the CQE writes of all JFCs alone. -/
structure Unmoved (state after : State) : Prop where
  tally : after.tally = state.tally
  writing : after.writing = state.writing
  slots : ∀ id, slotsOf id after.trace = slotsOf id state.trace
  images : after.jfcQueryContexts = state.jfcQueryContexts

theorem State.tally_setJfc (state : State) (id : Nat) (jfc : Jfc) :
    (state.setJfc id jfc).tally = Function.update state.tally id (some jfc.tally) := by
  funext other
  by_cases same : other = id
  · subst same
    simp [State.tally]
  · rw [Function.update_of_ne same]
    simp [State.tally, AList.lookup_insert_ne same]

theorem State.tally_setJfc_same {state : State} {id : Nat} {old new : Jfc}
    (found : state.jfcs.lookup id = some old) (same : new.tally = old.tally) :
    (state.setJfc id new).tally = state.tally := by
  rw [State.tally_setJfc, same]
  exact Function.update_eq_self_iff.mpr (by simp [State.tally, found])

theorem State.writing_call (state : State) (callback : Callback) (id : Nat) :
    (state.call callback).writing id = state.writing id ++ (callback.writing id).toList := by
  unfold State.writing
  rw [State.call_outstanding, List.filterMap_append]
  cases own : callback.writing id <;> simp [own]

namespace Unmoved

variable {state changed after : State}

theorem refl (state : State) : Unmoved state state := ⟨rfl, rfl, fun _ => rfl, rfl⟩

theorem trans (first : Unmoved state changed) (second : Unmoved changed after) :
    Unmoved state after where
  tally := second.tally.trans first.tally
  writing := second.writing.trans first.writing
  slots := fun id => (second.slots id).trans (first.slots id)
  images := second.images.trans first.images

theorem then_push (unmoved : Unmoved state changed) (tasks : List Task) :
    Unmoved state (changed.push tasks) := { unmoved with }

theorem then_call (unmoved : Unmoved state changed) {callback : Callback}
    (other : callback.writes = none) : Unmoved state (changed.call callback) :=
  { unmoved with
    writing := by
      funext id
      have none : callback.writing id = none := by
        cases callback <;> first | rfl | simp [Callback.writes] at other
      rw [State.writing_call, none, unmoved.writing]
      exact List.append_nil _ }

theorem then_emit (unmoved : Unmoved state changed) {observations : List Observation}
    (silent : ∀ id, slotsOf id observations = []) :
    Unmoved state (changed.emit observations) :=
  { unmoved with
    slots := fun id => by
      rw [← unmoved.slots id, State.emit_trace, slotsOf, List.filterMap_append]
      exact (congrArg _ (silent id)).trans (List.append_nil _) }

end Unmoved

section Functions

variable {config : Config} {state after : State}

/-- A change of the fields of a JFC that its CQE writes do not depend on. -/
theorem setJfc_unmoved {id : Nat} {old : Jfc} (found : state.jfcs.lookup id = some old)
    (new : Jfc) (same : new.tally = old.tally) : Unmoved state (state.setJfc id new) :=
  { Unmoved.refl state with tally := State.tally_setJfc_same found same }

theorem dispatchCompletionEvents_unmoved (state : State) :
    Unmoved state (dispatchCompletionEvents state) := by
  have left : Unmoved state (leaveCompletionEvents state) := { Unmoved.refl state with }
  unfold dispatchCompletionEvents
  split
  next => exact left
  next =>
    split
    next => exact left
    next =>
      simp only
      split
      next => exact { Unmoved.refl state with }
      next =>
        refine Unmoved.then_call (Unmoved.then_emit ?_ fun _ => rfl) rfl
        exact { Unmoved.refl state with }

theorem ceqeWritten_unmoved (state : State) (ticket ceqId : Nat) (ok : Bool) :
    Unmoved state (ceqeWritten state ticket ceqId ok) := by
  unfold ceqeWritten
  simp only
  split
  next =>
    refine Unmoved.then_emit ?_ fun _ => rfl
    exact { Unmoved.refl state with }
  next =>
    split
    next =>
      refine Unmoved.then_call ?_ rfl
      exact { Unmoved.refl state with }
    next => exact { Unmoved.refl state with }

theorem emitCompletionEvent_unmoved (config : Config) (state : State) (ticket id : Nat) :
    Unmoved state (emitCompletionEvent config state ticket id) := by
  unfold emitCompletionEvent
  simp only
  split
  next => exact (Unmoved.refl state).then_push _
  next =>
    split
    next =>
      split <;> exact { Unmoved.refl state with }
    next =>
      refine Unmoved.then_push (Unmoved.then_emit ?_ fun _ => rfl) _
      split <;> exact { Unmoved.refl state with }

theorem pumpTimers_unmoved (config : Config) (state : State) (expired : List Nat) :
    Unmoved state (pumpTimers config state expired) := by
  unfold pumpTimers pumpTimer
  split
  next => exact (Unmoved.refl state).then_push _
  next id rest =>
    split
    next => exact (Unmoved.refl state).then_push _
    next =>
      split
      next => exact (Unmoved.refl state).then_push _
      next jfc found =>
        refine Unmoved.then_push (Unmoved.then_emit ?_ fun _ => rfl) _
        exact { setJfc_unmoved found
          { jfc with pendingCompletions := 0, moderationDeadline := 0 } rfl with }

theorem Issued.unmoved (issued : Issued state after) : Unmoved state after := by
  cases issued with
  | read callback own plain =>
      refine (Unmoved.refl state).then_call ?_
      cases callback <;> first | rfl | simp [Callback.mailbox] at own
  | writeBack command status =>
      exact ((Unmoved.refl state).then_emit fun _ => rfl).then_call rfl

theorem finishUbaseDescriptor_unmoved (state : State) (command : Command) (status : Nat) :
    Unmoved state (finishUbaseDescriptor state command status) :=
  (Issued.writeBack command status).unmoved

theorem queryRead_unmoved (state : State) (command : Command) (ok : Bool) (bytes : Bytes) :
    Unmoved state (queryRead state command ok bytes) := by
  rcases queryRead_cases state command ok bytes with same | ⟨jfc, found, _, _, same⟩
  · rw [same]
    exact finishUbaseDescriptor_unmoved state command 5
  · rw [same]
    refine Unmoved.then_call ?_ rfl
    exact setJfc_unmoved found _ rfl

theorem writeCqe_unmoved (state : State) (id : Nat) (cqe : Cqe) :
    Unmoved state (writeCqe state id cqe) := by
  have called (publication : Publication) : Unmoved state
      ({ state with calls := state.calls + 1 }.emit [.called id publication]) := by
    refine Unmoved.then_emit ?_ fun _ => rfl
    exact { Unmoved.refl state with }
  unfold writeCqe
  simp only
  split
  next => exact (called _).then_push _
  next =>
    refine Unmoved.then_push (Unmoved.then_emit ?_ fun _ => rfl) _
    exact { called _ with }

theorem ceqDoorbell_unmoved (state : State) (value : Nat) :
    Unmoved state (ceqDoorbell state value) := by
  unfold ceqDoorbell
  simp only
  split
  next => exact Unmoved.refl state
  next => split <;> exact { Unmoved.refl state with }

theorem jfcDoorbell_unmoved (config : Config) (state : State) (value : Nat) :
    Unmoved state (jfcDoorbell config state value) := by
  unfold jfcDoorbell
  simp only
  split
  next =>
    refine Unmoved.then_emit ?_ fun _ => rfl
    exact { Unmoved.refl state with }
  next => exact Unmoved.refl state

/-- Activations that neither admit a publication nor destroy a JFC. -/
def Task.unmoved : Task → Bool
  | .admitJfcPublications _ | .maybeCompleteJfcDestroy | .maybeCompleteEqDestroy => false
  | _ => true

theorem runTask_unmoved {task : Task} (other : task.unmoved = true)
    (ran : runTask config state task = some after) : Unmoved state after := by
  cases task with
  | external =>
      obtain rfl := Option.some.inj ran
      exact Unmoved.refl state
  | pumpCompletionWork =>
      obtain rfl := Option.some.inj ran
      unfold pumpCompletionWork
      split <;> exact { Unmoved.refl state with }
  | pumpPass => simp [runTask] at ran
  | pumpTimers expired =>
      obtain rfl := Option.some.inj ran
      exact pumpTimers_unmoved config state expired
  | pumpQueues ids =>
      obtain rfl := Option.some.inj ran
      unfold pumpQueues
      split
      next => split <;> exact { Unmoved.refl state with }
      next => exact (Unmoved.refl state).then_push _
  | processJfcPublications id =>
      obtain rfl := Option.some.inj ran
      unfold processJfcPublications
      split
      next => exact Unmoved.refl state
      next => split <;> exact { Unmoved.refl state with }
  | leaveJfcPublications id =>
      obtain rfl := Option.some.inj ran
      unfold leaveJfcPublications
      split
      next => exact Unmoved.refl state
      next => split <;> exact { Unmoved.refl state with }
  | releasePublication id =>
      obtain rfl := Option.some.inj ran
      unfold releasePublication
      split <;> exact { Unmoved.refl state with }
  | complete call ok =>
      obtain rfl := Option.some.inj ran
      exact ((Unmoved.refl state).then_emit fun _ => rfl).then_push _
  | emitCompletionEvent ticket id =>
      obtain rfl := Option.some.inj ran
      exact emitCompletionEvent_unmoved config state ticket id
  | releaseCompletionEventSlot ticket =>
      obtain rfl := Option.some.inj ran
      refine Unmoved.then_push (Unmoved.then_emit ?_ fun _ => rfl) _
      exact { Unmoved.refl state with }
  | processCompletionEvent =>
      obtain rfl := Option.some.inj ran
      unfold processCompletionEvent
      split <;> exact { Unmoved.refl state with }
  | dispatchCompletionEvents =>
      obtain rfl := Option.some.inj ran
      exact dispatchCompletionEvents_unmoved state
  | _ => simp [Task.unmoved] at other

end Functions

/-! ## The image of a context -/

/-- The fields `pi` and `wr_cqe_idx` of a context image. -/
def shownPi (image : Bytes) : Nat := word image 4 &&& indexMask
def shownWr (image : Bytes) : Nat := word image 18 &&& indexMask

/-- The image shows the CQE writes of the JFC as the engine counts them. -/
structure Tally.Shown (pipelined : Bool) (tally : Tally) (image : Bytes) : Prop where
  size : image.length = 128
  pi : shownPi image = (tally.producer + (!pipelined && tally.writePending).toNat) % 2 ^ 22
  wr : shownWr image = tally.producer % 2 ^ 22

section Image

variable {image : Bytes} {index other mask value : Nat}

theorem setBits_eq_overwrite (inside : 4 * index + 4 ≤ image.length) (mask value : Nat) :
    setBits image index mask value = overwrite image (4 * index)
      (store32 ((word image index &&& (0xffffffff ^^^ mask)) ||| (value &&& mask))) :=
  (overwrite_eq_splice inside).symm

theorem setBits_length (inside : 4 * index + 4 ≤ image.length) (mask value : Nat) :
    (setBits image index mask value).length = image.length := by
  rw [setBits_eq_overwrite inside, overwrite_length]

theorem word_setBits (inside : 4 * index + 4 ≤ image.length) (mask value : Nat) :
    word (setBits image index mask value) index =
      ((word image index &&& (0xffffffff ^^^ mask)) ||| (value &&& mask)) % 2 ^ 32 := by
  rw [setBits_eq_overwrite inside, word, load32_overwrite inside]

theorem word_setBits_other (inside : 4 * index + 4 ≤ image.length) (apart : other ≠ index)
    (mask value : Nat) : word (setBits image index mask value) other = word image other := by
  rw [setBits_eq_overwrite inside, word, load32_overwrite_apart (by omega)]
  rfl

theorem high_mod (value : Nat) : (value &&& 0xffc00000) % 2 ^ 22 = 0 := by
  refine Nat.eq_of_testBit_eq fun bit => ?_
  have high : (0xffc00000 : Nat) = (2 ^ 10 - 1) <<< 22 := rfl
  simp only [high, Nat.testBit_mod_two_pow, Nat.testBit_and, Nat.testBit_shiftLeft,
    Nat.zero_testBit, Bool.and_eq_false_iff, decide_eq_false_iff_not]
  omega

/-- The low 22 bits of a word that is put together from a high and a low part. -/
theorem or_low (high low : Nat) :
    ((high &&& 0xffc00000) ||| (low &&& 0x3fffff)) % 2 ^ 32 &&& indexMask = low % 2 ^ 22 := by
  have mask : low &&& 0x3fffff = low % 2 ^ 22 := and_indexMask low
  rw [and_indexMask, Nat.mod_mod_of_dvd _ (by decide : 2 ^ 22 ∣ 2 ^ 32), Nat.or_mod_two_pow,
    high_mod, mask, Nat.mod_mod, Nat.zero_or]

end Image

theorem buildJfcQueryContext_shown {config : Config} {state : State} {id : Nat} {jfc : Jfc}
    (found : state.jfcs.lookup id = some jfc)
    (size : ((state.jfcQueryContexts.lookup id).getD []).length = 128) :
    jfc.tally.Shown config.pipelinedCompletionDma (buildJfcQueryContext config state id) := by
  unfold buildJfcQueryContext
  rw [found]
  dsimp only
  generalize (state.jfcQueryContexts.lookup id).getD [] = start at size ⊢
  generalize reserved : (!config.pipelinedCompletionDma && jfc.cqeWritePending).toNat = pending
  set first := setBits start 4 0x003fffff (jfc.producer + pending) with firstDef
  have firstSize : first.length = 128 := by rw [firstDef, setBits_length (by omega), size]
  set second := setBits first 4 0xffc00000 (jfc.moderationCount <<< 22) with secondDef
  have secondSize : second.length = 128 := by rw [secondDef, setBits_length (by omega), firstSize]
  set third := setBits second 5 0x003fffff jfc.consumer with thirdDef
  have thirdSize : third.length = 128 := by rw [thirdDef, setBits_length (by omega), secondSize]
  set fourth := setBits third 5 0x01c00000 (jfc.moderationPeriod <<< 22) with fourthDef
  have fourthSize : fourth.length = 128 := by rw [fourthDef, setBits_length (by omega), thirdSize]
  refine ⟨by rw [setBits_length (by omega), fourthSize], ?_, ?_⟩
  · rw [shownPi, word_setBits_other (by omega) (by decide), fourthDef,
      word_setBits_other (by omega) (by decide), thirdDef,
      word_setBits_other (by omega) (by decide), secondDef, word_setBits (by omega), firstDef,
      word_setBits (by omega), Nat.or_comm]
    refine (or_low _ _).trans ?_
    have low := or_low (word start 4) (jfc.producer + pending)
    rw [and_indexMask] at low
    rw [← reserved] at low ⊢
    exact low
  · rw [shownWr, word_setBits (by omega)]
    exact or_low _ _

/-! ## What a step does -/

@[ext]
structure Account where
  tally : Option Tally
  image : Option Bytes
  writing : List Publication
  slots : List Slot

def State.account (state : State) (id : Nat) : Account where
  tally := state.tally id
  image := state.jfcQueryContexts.lookup id
  writing := state.writing id
  slots := slotsOf id state.trace

/-- The CQE write of the JFC that a step ends, with its outcome. -/
def State.ending (state : State) (id : Nat) : Event → Option (Nat × Bool)
  | .fire index ok _ =>
      match state.outstanding[index]? with
      | some (.cqeWritten _ own publication) =>
          if own = id then some (publication.call, ok) else none
      | _ => none
  | _ => none

/-- What a step does to the CQE writes of a JFC. -/
inductive Account.Move (pipelined : Bool) (before : Account) :
    Option (Nat × Bool) → Account → Prop where
  | kept : Move pipelined before none before
  | reserved (tally : Tally) (publication : Publication) (slot : Slot)
      (found : before.tally = some tally) (call : slot.call = publication.call)
      (generation : slot.generation = tally.generation)
      (producer : slot.producer = tally.producer) :
      Move pipelined before none
        { before with
          tally := some { tally with
            producer := if pipelined then tally.producer + 1 else tally.producer
            writePending := true }
          writing := before.writing ++ [publication]
          slots := before.slots ++ [slot] }
  | ended (tally : Tally) (publication : Publication) (earlier later : List Publication)
      (ok pending : Bool) (shape : before.writing = earlier ++ publication :: later)
      (found : before.tally = some tally) (settled : pipelined = false → pending = false) :
      Move pipelined before (some (publication.call, ok))
        { before with
          tally := some { tally with
            producer := if !pipelined && ok then tally.producer + 1 else tally.producer
            writePending := pending }
          writing := earlier ++ later }
  | erased (image : Option Bytes) (idle : before.writing = [])
      (shown : ∀ tally, before.tally = some tally → ∀ old, before.image = some old →
        old.length = 128 → ∃ new, image = some new ∧ tally.Shown pipelined new)
      (kept : before.tally = none → image = before.image) :
      Move pipelined before none { before with tally := none, image := image }
  | created (generation : Nat) (image : Bytes) (size : image.length = 128)
      (vacant : before.tally = none) (idle : before.writing = [])
      (fresh : ∀ slot ∈ before.slots, slot.generation < generation) :
      Move pipelined before none
        { before with tally := some ⟨generation, 0, false⟩, image := some image }

theorem Account.Move.of_eq {pipelined : Bool} {before after : Account} (same : after = before) :
    Account.Move pipelined before none after := by
  subst same
  exact .kept

section Steps

variable {config : Config} {state changed before after : State} {id other : Nat}

theorem Unmoved.account (unmoved : Unmoved state after) (id : Nat) :
    after.account id = state.account id := by
  unfold State.account
  rw [unmoved.tally, unmoved.writing, unmoved.slots, unmoved.images]

theorem Unmoved.move (unmoved : Unmoved state after) (pipelined : Bool) (id : Nat) :
    Account.Move pipelined (state.account id) none (after.account id) := .of_eq (unmoved.account id)

theorem Account.Move.of_unmoved {pipelined : Bool} {ending : Option (Nat × Bool)}
    (unmoved : Unmoved state changed)
    (move : Account.Move pipelined (changed.account id) ending (after.account id)) :
    Account.Move pipelined (state.account id) ending (after.account id) := by
  rwa [unmoved.account] at move

theorem Account.Move.then_unmoved {pipelined : Bool} {ending : Option (Nat × Bool)}
    {account : Account} (move : Account.Move pipelined account ending (changed.account id))
    (unmoved : Unmoved changed after) :
    Account.Move pipelined account ending (after.account id) := by
  rwa [unmoved.account]

theorem reserveCqe_tally (config : Config) (state : State) (id : Nat) (jfc : Jfc)
    (consumer : Nat) : (reserveCqe config state id jfc consumer).tally =
      Function.update state.tally id (some { jfc.tally with
        producer := if config.pipelinedCompletionDma then jfc.producer + 1 else jfc.producer
        writePending := true }) := by
  unfold reserveCqe
  split
  next pipelined =>
    exact State.tally_setJfc state id _
  next serial =>
    exact State.tally_setJfc state id _

theorem reserveCqe_kept (config : Config) (state : State) (id : Nat) (jfc : Jfc)
    (consumer : Nat) :
    (reserveCqe config state id jfc consumer).outstanding = state.outstanding ∧
      (reserveCqe config state id jfc consumer).trace = state.trace ∧
      (reserveCqe config state id jfc consumer).jfcQueryContexts = state.jfcQueryContexts := by
  unfold reserveCqe
  split <;> exact ⟨rfl, rfl, rfl⟩

theorem publish_account (config : Config) (state : State) (ticket id : Nat)
    (publication : Publication) (consumer : Option Nat) (other : Nat) :
    Account.Move config.pipelinedCompletionDma (state.account other) none
      ((publish config state ticket id publication consumer).account other) := by
  unfold publish
  split
  next index jfc found =>
    split
    next => exact ((Unmoved.refl state).then_push _).move _ _
    next =>
      obtain ⟨outstanding, trace, images⟩ := reserveCqe_kept config state id jfc index
      generalize slotShape : Slot.mk publication.call jfc.generation jfc.producer jfc.slotAddress
        (makeCqe jfc.owner publication.cqe) = slot
      have after : (((reserveCqe config state id jfc index).emit
          [.cqeDma publication.call id jfc.generation jfc.producer jfc.slotAddress
            (makeCqe jfc.owner publication.cqe)]).call
              (.cqeWritten ticket id publication)).account other =
          { tally := Function.update state.tally id (some { jfc.tally with
              producer := if config.pipelinedCompletionDma then jfc.producer + 1 else jfc.producer
              writePending := true }) other
            image := state.jfcQueryContexts.lookup other
            writing := state.writing other ++ if other = id then [publication] else []
            slots := slotsOf other state.trace ++ if other = id then [slot] else [] } := by
        apply Account.ext
        · exact congrFun (reserveCqe_tally config state id jfc index) other
        · exact congrArg (AList.lookup other) images
        · refine (State.writing_call _ _ other).trans ?_
          have same : ((reserveCqe config state id jfc index).emit [.cqeDma publication.call id
              jfc.generation jfc.producer jfc.slotAddress
              (makeCqe jfc.owner publication.cqe)]).writing other = state.writing other :=
            congrArg (List.filterMap (Callback.writing other)) outstanding
          rw [same]
          by_cases own : other = id
          · simp [Callback.writing, own]
          · simp [Callback.writing, own, Ne.symm own]
        · change slotsOf other ((reserveCqe config state id jfc index).trace ++ _) = _
          rw [trace, slotsOf, List.filterMap_append]
          by_cases own : other = id
          · simp [slotsOf, Observation.slot, own, slotShape]
          · simp [slotsOf, Observation.slot, own, Ne.symm own]
      rw [after]
      by_cases same : other = id
      · subst same
        have tally : (state.account other).tally = some jfc.tally := by
          simp [State.account, State.tally, found]
        subst slotShape
        simp only [Function.update_self, if_true]
        exact .reserved jfc.tally publication _ tally rfl rfl rfl
      · rw [Function.update_of_ne same, if_neg same, if_neg same, List.append_nil, List.append_nil]
        exact .kept
  next => exact ((Unmoved.refl state).then_push _).move _ _

theorem writeCqeNow_account (config : Config) (state : State) (ticket id : Nat)
    (publication : Publication) (other : Nat) :
    Account.Move config.pipelinedCompletionDma (state.account other) none
      ((writeCqeNow config state ticket id publication).account other) := by
  unfold writeCqeNow
  split
  next => exact ((Unmoved.refl state).then_push _).move _ _
  next =>
    split
    next => exact publish_account config state ticket id publication _ other
    next => exact ((Unmoved.refl state).then_call rfl).move _ _

theorem admitJfcPublications_account (config : Config) (state : State) (id other : Nat) :
    Account.Move config.pipelinedCompletionDma (state.account other) none
      ((admitJfcPublications config state id).account other) := by
  unfold admitJfcPublications
  split
  next => exact .kept
  next queue _ =>
    split
    next => exact ((Unmoved.refl state).then_push _).move _ _
    next publication rest _ =>
      split
      next =>
        have granted : Unmoved state (grant config state id queue publication rest) := by
          refine Unmoved.then_push (Unmoved.then_emit ?_ fun _ => rfl) _
          exact { Unmoved.refl state with }
        exact .of_unmoved granted (writeCqeNow_account config _ state.tickets id publication other)
      next => exact ((Unmoved.refl state).then_push _).move _ _

theorem decodeJfc_tally {context : Bytes} {generation : Nat} {jfc : Jfc}
    (decoded : decodeJfc context generation = some jfc) : jfc.tally = ⟨generation, 0, false⟩ := by
  unfold decodeJfc at decoded
  simp only at decoded
  split at decoded
  next => simp at decoded
  next =>
    obtain rfl := Option.some.inj decoded
    rfl

/-- A JFC that a command can be about has no write in the hands of the host. -/
structure State.Vacant (state : State) (id : Nat) : Prop where
  tally : state.tally id = none
  idle : state.writing id = []

theorem applyUbaseMailbox_account (config : Config) (state : State) (command : Command)
    (context : Bytes) (other : Nat)
    (vacant : command.opcode = .createJfc → context ≠ [] →
      context.length = 128 ∧ state.Vacant command.tag)
    (fresh : ∀ slot ∈ slotsOf other state.trace, slot.generation < state.generations) :
    Account.Move config.pipelinedCompletionDma (state.account other) none
      ((applyUbaseMailbox state command context).account other) := by
  have issued (status : Nat) : Account.Move config.pipelinedCompletionDma (state.account other) none
      ((finishUbaseDescriptor state command status).account other) :=
    (finishUbaseDescriptor_unmoved state command status).move _ _
  unfold applyUbaseMailbox
  split
  next =>
    split
    next => exact issued 22
    next ceq _ =>
      refine Unmoved.move (Unmoved.trans ?_ (finishUbaseDescriptor_unmoved _ command 0)) _ _
      exact { Unmoved.refl state with }
  next isCreate =>
    split
    next => exact issued 22
    next jfc decoded =>
      have given : context ≠ [] := by
        rintro rfl
        simp [decodeJfc_nil] at decoded
      obtain ⟨size, gone, idle⟩ := vacant isCreate given
      refine Account.Move.then_unmoved ?_ (finishUbaseDescriptor_unmoved _ command 0)
      have changed : State.account
          { state.setJfc command.tag jfc with
            generations := state.generations + 1
            armedJfcs := state.armedJfcs.erase command.tag
            jfcCqeDmaInFlight := state.jfcCqeDmaInFlight.erase command.tag
            jfcQueryContexts := state.jfcQueryContexts.insert command.tag (context.take 128)
            jfcCeqs := state.jfcCeqs.insert command.tag (word context 2 >>> 24) } other =
          { state.account other with
            tally := Function.update state.tally command.tag (some jfc.tally) other
            image := (state.jfcQueryContexts.insert command.tag (context.take 128)).lookup other } :=
        Account.ext (congrFun (State.tally_setJfc state command.tag jfc) other) rfl rfl rfl
      rw [changed, decodeJfc_tally decoded]
      by_cases same : other = command.tag
      · subst same
        rw [Function.update_self, AList.lookup_insert]
        exact .created state.generations _ (by simp [size]) gone idle fresh
      · rw [Function.update_of_ne same, AList.lookup_insert_ne same]
        exact .kept
  next =>
    split
    next => exact issued 2
    next jfc found =>
      refine Unmoved.move (Unmoved.trans ?_ (finishUbaseDescriptor_unmoved _ command 0)) _ _
      exact setJfc_unmoved found _ rfl
  all_goals exact issued 0

theorem eraseJfc_account (config : Config) (state : State) {id : Nat} (idle : state.writing id = [])
    (other : Nat) : Account.Move config.pipelinedCompletionDma (state.account other) none
      ((eraseJfc config state id).account other) := by
  by_cases same : other = id
  · subst same
    have erased : (eraseJfc config state other).account other =
        { state.account other with
          tally := none
          image := (eraseJfc config state other).jfcQueryContexts.lookup other } := by
      refine Account.ext ?_ rfl rfl rfl
      change ((state.jfcs.erase other).lookup other).map Jfc.tally = none
      rw [AList.lookup_erase]
      rfl
    rw [erased]
    refine .erased _ idle (fun tally found old held size => ?_) fun absent => ?_
    · obtain ⟨jfc, present, rfl⟩ := Option.map_eq_some_iff.mp found
      have image : (state.jfcQueryContexts.lookup other).getD [] = old := by
        change state.jfcQueryContexts.lookup other = some old at held
        rw [held]
        rfl
      refine ⟨buildJfcQueryContext config state other, ?_, ?_⟩
      · simp [eraseJfc, present]
      · exact buildJfcQueryContext_shown present (by rw [image, size])
    · have gone : state.jfcs.lookup other = none := Option.map_eq_none_iff.mp absent
      simp [eraseJfc, gone, State.account]
  · have kept : (eraseJfc config state id).account other = state.account other := by
      refine Account.ext ?_ ?_ rfl rfl
      · change ((state.jfcs.erase id).lookup other).map Jfc.tally = _
        rw [AList.lookup_erase_ne same]
        rfl
      · change (eraseJfc config state id).jfcQueryContexts.lookup other = _
        unfold eraseJfc
        dsimp only
        split
        · rw [AList.lookup_insert_ne same]
          rfl
        · rfl
    exact .of_eq kept

theorem Handled.account {command : Command} (handled : Handled config state command after)
    (idle : state.jfcPublicationBusy command.tag = false → state.writing command.tag = [])
    (other : Nat) :
    Account.Move config.pipelinedCompletionDma (state.account other) none (after.account other) := by
  cases handled with
  | issued issued => exact issued.unmoved.move _ _
  | creating | creatingCeq => exact ((Unmoved.refl state).then_call rfl).move _ _
  | deferredCeq | deferredJfc => exact .kept
  | erasedCeq =>
      refine Unmoved.move (Unmoved.trans ?_ (finishUbaseDescriptor_unmoved _ command 0)) _ _
      exact { Unmoved.refl state with }
  | erasedJfc unused =>
      exact (eraseJfc_account config state (idle unused) other).then_unmoved
        (finishUbaseDescriptor_unmoved _ command 0)

/-- The context of one JFC changes, and the CQE writes of the others do not. -/
structure Settled (state : State) (id : Nat) (tally : Tally) (after : State) : Prop where
  tally : after.tally = Function.update state.tally id (some tally)
  writing : after.writing = state.writing
  slots : ∀ other, slotsOf other after.trace = slotsOf other state.trace
  images : after.jfcQueryContexts = state.jfcQueryContexts

theorem Settled.then_unmoved {tally : Tally} (settled : Settled state id tally changed)
    (unmoved : Unmoved changed after) : Settled state id tally after where
  tally := unmoved.tally.trans settled.tally
  writing := unmoved.writing.trans settled.writing
  slots := fun other => (unmoved.slots other).trans (settled.slots other)
  images := unmoved.images.trans settled.images

theorem setJfc_settled (state : State) (id : Nat) (jfc : Jfc) :
    Settled state id jfc.tally (state.setJfc id jfc) :=
  ⟨State.tally_setJfc state id jfc, rfl, fun _ => rfl, rfl⟩

theorem settleCqe_settled (state : State) (id : Nat) (jfc : Jfc) (left : Nat) :
    Settled state id { jfc.tally with writePending := left != 0 } (settleCqe state id jfc left) :=
  { setJfc_settled state id { jfc with cqeWritePending := left != 0 } with }

theorem moderate_settled (state : State) (ticket id call : Nat) (jfc : Jfc) :
    Settled state id jfc.tally (moderate state ticket id call jfc) := by
  have armed (jfc : Jfc) (now : Nat) : (jfc.armModeration now).tally = jfc.tally := by
    unfold Jfc.armModeration Jfc.tally
    split <;> rfl
  unfold moderate
  split
  next =>
    have settled := setJfc_settled state id
      ({ jfc with pendingCompletions := jfc.pendingCompletions + 1 }.armModeration state.now)
    rw [armed] at settled
    exact settled.then_unmoved ((Unmoved.refl _).then_push _)
  next =>
    have settled := setJfc_settled state id
      { jfc with pendingCompletions := 0, moderationDeadline := 0 }
    exact settled.then_unmoved (((Unmoved.refl _).then_emit fun _ => rfl).then_push _)

theorem cqeWritten_settled (config : Config) (state : State) (ticket : Nat)
    (publication : Publication) (ok : Bool) {jfc : Jfc}
    (found : state.jfcs.lookup id = some jfc) :
    ∃ pending, (config.pipelinedCompletionDma = false → pending = false) ∧
      Settled state id { jfc.tally with
          producer := if !config.pipelinedCompletionDma && ok then jfc.producer + 1
            else jfc.producer
          writePending := pending }
        (cqeWritten config state ticket id publication ok) := by
  have same : state.tally = Function.update state.tally id (some jfc.tally) :=
    (Function.update_eq_self_iff.mpr (by simp [State.tally, found])).symm
  unfold cqeWritten
  rw [found]
  cases mode : config.pipelinedCompletionDma with
  | true =>
      simp only [Bool.not_true, Bool.false_and, Bool.false_eq_true, if_false, if_true]
      have kept : Settled state id jfc.tally
          (state.push (finish ticket id publication.call false)) :=
        ⟨same, rfl, fun _ => rfl, rfl⟩
      split
      next => exact ⟨jfc.cqeWritePending, by simp, kept⟩
      next => exact ⟨jfc.cqeWritePending, by simp, kept⟩
      next left _ =>
        have settled := settleCqe_settled state id jfc left
        refine ⟨left != 0, by simp, ?_⟩
        split
        next =>
          have moderated := moderate_settled (settleCqe state id jfc left) ticket id
            publication.call { jfc with cqeWritePending := left != 0 }
          refine ⟨?_, moderated.writing, moderated.slots, moderated.images⟩
          rw [moderated.tally, settled.tally, Function.update_idem]
          rfl
        next => exact settled.then_unmoved ((Unmoved.refl _).then_push _)
  | false =>
      refine ⟨false, fun _ => rfl, ?_⟩
      cases ok with
      | true =>
          simp only [Bool.not_false, Bool.and_true, Bool.false_eq_true, if_false, if_true]
          exact moderate_settled state ticket id publication.call
            { jfc with cqeWritePending := false, producer := jfc.producer + 1 }
      | false =>
          simp only [Bool.not_false, Bool.and_false, Bool.false_eq_true, if_false]
          exact (setJfc_settled state id { jfc with cqeWritePending := false }).then_unmoved
            ((Unmoved.refl _).then_push _)

/-- The callback of a CQE write. -/
theorem cqeWritten_account (config : Config) {ticket index : Nat} {publication : Publication}
    (held : state.outstanding[index]? = some (.cqeWritten ticket id publication)) (ok : Bool)
    (present : state.tally id ≠ none) (other : Nat) :
    Account.Move config.pipelinedCompletionDma (state.account other)
      (if id = other then some (publication.call, ok) else none)
      ((cqeWritten config (state.withOutstanding (state.outstanding.eraseIdx index)) ticket id
        publication ok).account other) := by
  obtain ⟨jfc, found⟩ : ∃ jfc, state.jfcs.lookup id = some jfc := by
    cases found : state.jfcs.lookup id with
    | none => simp [State.tally, found] at present
    | some jfc => exact ⟨jfc, rfl⟩
  obtain ⟨pending, settles, settled⟩ := cqeWritten_settled config
    (state.withOutstanding (state.outstanding.eraseIdx index)) ticket publication ok found
  by_cases same : id = other
  · subst same
    obtain ⟨earlier, later, shape, erased⟩ := filterMap_eraseIdx_some held
      (show Callback.writing id _ = some publication by simp [Callback.writing])
    have after : (cqeWritten config (state.withOutstanding (state.outstanding.eraseIdx index))
        ticket id publication ok).account id =
        { state.account id with
          tally := some { jfc.tally with
            producer := if !config.pipelinedCompletionDma && ok then jfc.producer + 1
              else jfc.producer
            writePending := pending }
          writing := earlier ++ later } := by
      refine Account.ext ?_ ?_ ?_ (settled.slots id)
      · exact (congrFun settled.tally id).trans (Function.update_self id _ _)
      · exact congrArg (AList.lookup id) settled.images
      · exact (congrFun settled.writing id).trans erased
    rw [after, if_pos rfl]
    exact .ended jfc.tally publication earlier later ok pending shape
      (by simp [State.account, State.tally, found]) settles
  · rw [if_neg same]
    refine .of_eq (Account.ext ?_ ?_ ?_ (settled.slots other))
    · exact (congrFun settled.tally other).trans (Function.update_of_ne (Ne.symm same) _ _)
    · exact congrArg (AList.lookup other) settled.images
    · refine (congrFun settled.writing other).trans ?_
      exact filterMap_eraseIdx_none held (by simp [Callback.writing, same])

theorem State.tally_none_iff : state.tally id = none ↔ state.ring id = none := by
  simp [State.tally, State.ring]

theorem State.writing_nil (gone : id ∉ state.writes) : state.writing id = [] := by
  refine List.filterMap_eq_nil_iff.mpr fun callback held => ?_
  cases callback with
  | cqeWritten ticket own publication =>
      refine if_neg fun same => gone (List.mem_filterMap.mpr ⟨_, held, ?_⟩)
      rw [same]
      rfl
  | _ => rfl

theorem State.Secured.unused (secured : state.Secured config)
    (idle : state.jfcPublicationBusy id = false) : state.writing id = [] :=
  State.writing_nil (secured.loaded id (unloaded_of_idle config idle).2)

theorem runTask_account {task : Task} (secured : state.Secured config)
    (ran : runTask config state task = some after) (id : Nat) :
    Account.Move config.pipelinedCompletionDma (state.account id) none (after.account id) := by
  by_cases other : task.unmoved = true
  · exact (runTask_unmoved other ran).move _ _
  cases task with
  | admitJfcPublications own =>
      obtain rfl := Option.some.inj ran
      exact admitJfcPublications_account config state own id
  | maybeCompleteJfcDestroy =>
      obtain rfl := Option.some.inj ran
      unfold maybeCompleteJfcDestroy
      split
      next => exact .kept
      next command _ =>
        split
        next => exact .kept
        next =>
          have handled := handleUbaseMailbox_handled config
            { state with pendingJfcDestroy := none, drainingJfcId := none } command
          exact handled.account (fun idle => secured.unused idle) id
  | maybeCompleteEqDestroy =>
      obtain rfl := Option.some.inj ran
      unfold maybeCompleteEqDestroy
      split
      next => exact .kept
      next command _ =>
        split
        next => exact .kept
        next =>
          have handled := handleUbaseMailbox_handled config
            { state with pendingEqDestroy := none, drainingCeqId := none } command
          exact handled.account (fun idle => secured.unused idle) id
  | _ => simp [Task.unmoved] at other

/-- A callback other than that of a CQE write. -/
theorem runCallback_account (secured : state.Secured config) {callback : Callback}
    (other : callback.writes = none) (ok : Bool) (bytes : Bytes)
    (vacant : ∀ command, callback = .contextRead command → command.opcode = .createJfc →
      state.ring command.tag = none)
    (fresh : ∀ slot ∈ slotsOf id state.trace, slot.generation < state.generations) :
    Account.Move config.pipelinedCompletionDma (state.account id) none
      ((runCallback config state ok bytes callback).account id) := by
  cases callback with
  | consumerRead ticket own publication =>
      exact publish_account config state ticket own publication _ id
  | cqeWritten => simp [Callback.writes] at other
  | ceqeWritten ticket ceqId vector => exact (ceqeWritten_unmoved state ticket ceqId ok).move _ _
  | interruptRaised ticket => exact .kept
  | contextRead command =>
      simp only [runCallback, contextRead]
      split
      next arrived =>
        refine applyUbaseMailbox_account config state command bytes id (fun isCreate _ => ?_) fresh
        simp only [Bool.and_eq_true, beq_iff_eq, isCreate] at arrived
        have none := vacant command rfl isCreate
        exact ⟨arrived.2, State.tally_none_iff.mpr none, State.writing_nil (secured.present _ none)⟩
      next => exact (finishUbaseDescriptor_unmoved state command 5).move _ _
  | queryRead command => exact (queryRead_unmoved state command ok bytes).move _ _
  | queryWritten command =>
      simp only [runCallback, queryWritten]
      split
      next =>
        exact applyUbaseMailbox_account config state command [] id
          (fun _ given => absurd rfl given) fresh
      next => exact (finishUbaseDescriptor_unmoved state command 5).move _ _
  | descriptorWritten => exact .kept

theorem fire_account {index : Nat} {callback : Callback} (secured : before.Secured config)
    (held : before.outstanding[index]? = some callback) (ok : Bool) (bytes : Bytes)
    (vacant : ∀ command, .contextRead command ∈ before.outstanding →
      command.opcode = .createJfc → before.ring command.tag = none)
    (fresh : ∀ slot ∈ slotsOf id before.trace, slot.generation < before.generations) :
    Account.Move config.pipelinedCompletionDma (before.account id)
      (before.ending id (.fire index ok bytes))
      ((runCallback config (before.withOutstanding (before.outstanding.eraseIdx index)) ok bytes
        callback).account id) := by
  by_cases other : callback.writes = none
  · have ending : before.ending id (.fire index ok bytes) = none := by
      cases callback <;> simp [State.ending, held, Callback.writes] at other ⊢
    rw [ending]
    have writes : (before.withOutstanding (before.outstanding.eraseIdx index)).writes =
        before.writes := filterMap_eraseIdx_none held other
    have withdrawn : Unmoved before
        (before.withOutstanding (before.outstanding.eraseIdx index)) :=
      { Unmoved.refl before with
        writing := by
          funext own
          refine filterMap_eraseIdx_none held ?_
          cases callback <;> first | rfl | simp [Callback.writes] at other }
    refine .of_unmoved withdrawn (runCallback_account ⟨?_, ?_⟩ other ok bytes ?_ fresh)
    · intro own
      rw [writes]
      exact secured.loaded own
    · intro own
      rw [writes]
      exact secured.present own
    · rintro command rfl isCreate
      exact vacant command (List.mem_of_getElem? held) isCreate
  · cases callback with
    | cqeWritten ticket own publication =>
        have writing : own ∈ before.writes :=
          List.mem_filterMap.mpr ⟨_, List.mem_of_getElem? held, rfl⟩
        have present : before.tally own ≠ none := fun gone =>
          secured.present own (State.tally_none_iff.mp gone) writing
        have ending : before.ending id (.fire index ok bytes) =
            if own = id then some (publication.call, ok) else none := by
          simp [State.ending, held]
        rw [ending]
        exact cqeWritten_account config held ok present id
    | _ => simp [Callback.writes] at other

theorem step_account {event : Event} (secured : before.Secured config)
    (vacant : ∀ command, .contextRead command ∈ before.outstanding →
      command.opcode = .createJfc → before.ring command.tag = none)
    (fresh : ∀ slot ∈ slotsOf id before.trace, slot.generation < before.generations)
    (taken : step config before event = some after) :
    Account.Move config.pipelinedCompletionDma (before.account id) (before.ending id event)
      (after.account id) := by
  rcases step_kinds taken with ⟨task, rest, rfl, top, ran⟩ | ⟨expired, rest, top, _, rfl⟩ | acted
  · have entered : (before.withStack rest).Secured config := ⟨secured.loaded, secured.present⟩
    exact runTask_account entered ran id
  · have ending : before.ending id event = none := by
      cases event with
      | fire => simp [step, top, State.atBoundary] at taken
      | _ => rfl
    rw [ending]
    exact .kept
  · cases event with
    | run | beginPass => simp [environment] at acted
    | fire index ok bytes =>
        simp only [environment] at acted
        split at acted
        next => simp at acted
        next callback held =>
          obtain rfl := Option.some.inj acted
          exact fire_account secured held ok bytes vacant fresh
    | writeCqe own cqe =>
        obtain rfl := Option.some.inj acted
        exact (writeCqe_unmoved before own cqe).move _ _
    | mailbox command =>
        simp only [environment] at acted
        split at acted
        next => simp at acted
        next =>
          obtain rfl := Option.some.inj acted
          have handled := handleUbaseMailbox_handled config { before with ubaseBusy := true } command
          exact handled.account (fun idle => secured.unused idle) id
    | ceqDoorbell value =>
        obtain rfl := Option.some.inj acted
        exact (ceqDoorbell_unmoved before value).move _ _
    | jfcDoorbell value =>
        obtain rfl := Option.some.inj acted
        exact (jfcDoorbell_unmoved config before value).move _ _
    | advanceTime now =>
        simp only [environment] at acted
        split at acted <;>
          obtain rfl := Option.some.inj acted <;>
          exact .kept

end Steps

end Udma.Cq
