import Udma.Cq.Lane

/-!
# What a step does to a lane

`Lane.Move` lists everything that can happen to the publications of one JFC and
to its ring, and `step_lane` shows that every step is such a move for every JFC.
-/

namespace Udma.Cq

open Udma.Abi Udma.Arithmetic Udma.Collections

/-- What a callback brings to a lane. -/
structure Input where
  /-- The JFC and the consumer index that the read of a query command returns. -/
  query : Option (Nat × Nat) := none
  /-- The JFC and the consumer index that the read of a publication returns. -/
  refresh : Option (Nat × Nat) := none
  /-- The JFC whose create command has read its context. -/
  install : Option Nat := none
  deriving DecidableEq, Repr

/-- The consumer index in the bytes that were read. -/
def consumerIndex (ok : Bool) (bytes : Bytes) : Option Nat :=
  if ok && bytes.length == 4 then some (load32 bytes 0 &&& indexMask) else none

def Callback.input (ok : Bool) (bytes : Bytes) : Callback → Input
  | .queryRead command => { query := (consumerIndex ok bytes).map (command.tag, ·) }
  | .consumerRead _ id _ => { refresh := (consumerIndex ok bytes).map (id, ·) }
  | .contextRead command =>
      { install := if command.opcode = .createJfc then some command.tag else none }
  | _ => {}

def State.input (state : State) : Event → Input
  | .fire index ok bytes =>
      ((state.outstanding[index]?).map (Callback.input ok bytes)).getD {}
  | _ => {}

/-- The lane after a slot of `ring` was given to a publication. -/
@[simps]
def Lane.reserve (pipelined : Bool) (lane : Lane) (ring : Ring) (publication : Publication)
    (consumer : Nat) : Lane :=
  { lane with
    ring := some { ring with
      consumer := consumer
      producer := if pipelined then ring.producer + 1 else ring.producer }
    writing := lane.writing ++ [publication]
    slots := lane.slots ++ [ring.slot publication] }

/-- The lane after its first publication was admitted. -/
@[simps]
def Lane.granted (lane : Lane) (rest : List Publication) : Lane :=
  { lane with
    pending := rest
    load := lane.load + 1 }

/-- What a step does to the lane of JFC `id`. -/
inductive Lane.Move (pipelined : Bool) (input : Input) (id : Nat) (lane : Lane) : Lane → Prop where
  | kept (calls generations : Nat) :
      lane.calls ≤ calls → lane.generations ≤ generations →
      Move pipelined input id lane
        { lane with
          calls := calls
          generations := generations }
  | turnedAway (publication : Publication) :
      publication.call = lane.calls → publication.origin = lane.ring.map Ring.generation →
      Move pipelined input id lane
        { lane with
          calls := lane.calls + 1
          announced := lane.announced ++ [publication] }
  | accepted (publication : Publication) :
      publication.call = lane.calls → publication.origin = lane.ring.map Ring.generation →
      Move pipelined input id lane
        { lane with
          calls := lane.calls + 1
          announced := lane.announced ++ [publication]
          accepted := lane.accepted ++ [publication.call]
          pending := lane.pending ++ [publication] }
  | refused {publication : Publication} {rest : List Publication} :
      lane.pending = publication :: rest →
      Move pipelined input id lane (lane.granted rest)
  | refreshing {publication : Publication} {rest : List Publication} {ring : Ring} :
      lane.pending = publication :: rest → lane.ring = some ring →
      (pipelined = true → lane.load = 0 ∧ ring.depth ≤ ring.used) →
      Move pipelined input id lane
        { lane.granted rest with reading := lane.reading ++ [publication] }
  | reserved {publication : Publication} {rest : List Publication} {ring : Ring} :
      pipelined = true → lane.pending = publication :: rest → lane.ring = some ring →
      ring.used < ring.depth → ring.usedSince (ring.consumer &&& indexMask) < ring.depth →
      Move pipelined input id lane
        ((lane.granted rest).reserve pipelined ring publication (ring.consumer &&& indexMask))
  | unread {publication : Publication} {earlier later : List Publication} :
      lane.reading = earlier ++ publication :: later →
      Move pipelined input id lane { lane with reading := earlier ++ later }
  | refreshed {publication : Publication} {earlier later : List Publication} {ring : Ring}
      {consumer : Nat} :
      lane.reading = earlier ++ publication :: later → lane.ring = some ring →
      input.refresh = some (id, consumer) → ring.usedSince consumer < ring.depth →
      Move pipelined input id lane
        ({ lane with reading := earlier ++ later }.reserve pipelined ring publication consumer)
  | written {publication : Publication} {earlier later : List Publication} {ring : Option Ring} :
      lane.writing = earlier ++ publication :: later →
      (ring = lane.ring ∨ pipelined = false ∧ ∃ old, lane.ring = some old ∧
        ring = some { old with producer := old.producer + 1 }) →
      Move pipelined input id lane
        { lane with
          writing := earlier ++ later
          ring := ring }
  | released :
      Move pipelined input id lane { lane with load := lane.load - 1 }
  | queried {ring : Ring} {consumer : Nat} :
      input.query = some (id, consumer) → lane.ring = some ring →
      Move pipelined input id lane
        { lane with ring := some { ring with consumer := consumer } }
  | erased :
      lane.pending = [] → lane.load = 0 →
      Move pipelined input id lane { lane with ring := none }
  | installed (queueIova : Nat) (shift : Fin 16) :
      input.install = some id →
      Move pipelined input id lane
        { lane with
          ring := some ⟨lane.generations, queueIova, shift, 0, 0⟩
          generations := lane.generations + 1 }

theorem Lane.Move.of_eq {pipelined : Bool} {input : Input} {id : Nat} {lane after : Lane}
    (same : after = lane) : Lane.Move pipelined input id lane after := by
  subst same
  exact .kept after.calls after.generations le_rfl le_rfl

/-! ## The lane behind each change of the state -/

section Components

variable {config : Config} {state : State} {id other : Nat}

@[simp]
theorem State.lane_push (config : Config) (state : State) (tasks : List Task) (id : Nat) :
    (state.push tasks).lane config id = state.lane config id := rfl

theorem State.pendingFor_setQueue (state : State) (id : Nat) (queue : PublicationQueue) :
    (state.setQueue id queue).pendingFor =
      Function.update state.pendingFor id queue.pending := by
  funext other
  by_cases same : other = id
  · subst same
    simp [State.pendingFor]
  · simp [State.pendingFor, AList.lookup_insert_ne same, Function.update_of_ne same]

theorem State.pendingFor_eq {queue : PublicationQueue}
    (found : state.jfcPublications.lookup id = some queue) :
    state.pendingFor id = queue.pending := by
  simp [State.pendingFor, found]

theorem State.lane_setQueue (config : Config) (state : State) (id : Nat)
    (queue : PublicationQueue) :
    (state.setQueue id queue).lane config id =
      { state.lane config id with
        pending := queue.pending
        load := queue.load config } := by
  simp only [State.lane, State.pendingFor_setQueue, State.load_setQueue, Function.update_self]
  rfl

theorem State.lane_setQueue_other (config : Config) (state : State) (queue : PublicationQueue)
    (different : other ≠ id) :
    (state.setQueue id queue).lane config other = state.lane config other := by
  simp only [State.lane, State.pendingFor_setQueue, State.load_setQueue,
    Function.update_of_ne different]
  rfl

theorem State.lane_setJfc (config : Config) (state : State) (id : Nat) (jfc : Jfc) :
    (state.setJfc id jfc).lane config id =
      { state.lane config id with ring := some jfc.ring } := by
  simp only [State.lane, State.ring_setJfc, Function.update_self]
  rfl

theorem State.lane_setJfc_other (config : Config) (state : State) (jfc : Jfc)
    (different : other ≠ id) :
    (state.setJfc id jfc).lane config other = state.lane config other := by
  simp only [State.lane, State.ring_setJfc, Function.update_of_ne different]
  rfl

theorem State.ring_of_lookup {jfc : Jfc} (found : state.jfcs.lookup id = some jfc) :
    state.ring id = some jfc.ring := by
  simp [State.ring, found]

theorem State.lane_call (config : Config) (state : State) (callback : Callback) (id : Nat) :
    (state.call callback).lane config id =
      { state.lane config id with
        reading := (state.lane config id).reading ++ (callback.reading id).toList
        writing := (state.lane config id).writing ++ (callback.writing id).toList } := by
  simp only [State.lane, State.call_outstanding, List.filterMap_append,
    filterMap_singleton (Callback.reading id), filterMap_singleton (Callback.writing id)]
  rfl

/-- A callback of another lane, of an event or of a command. -/
theorem State.lane_call_other (config : Config) (state : State) {callback : Callback}
    (reading : callback.reading id = none) (writing : callback.writing id = none) :
    (state.call callback).lane config id = state.lane config id := by
  rw [State.lane_call, reading, writing]
  simp

theorem State.lane_emit (config : Config) (state : State) (observation : Observation) (id : Nat) :
    (state.emit [observation]).lane config id =
      { state.lane config id with
        announced := (state.lane config id).announced ++ (observation.announced id).toList
        accepted := (state.lane config id).accepted ++ (observation.acceptedCall id).toList
        slots := (state.lane config id).slots ++ (observation.slot id).toList } := by
  simp only [State.lane, State.emit_trace, announcedFor, acceptedFor, slotsOf,
    List.filterMap_append, filterMap_singleton (Observation.announced id),
    filterMap_singleton (Observation.acceptedCall id), filterMap_singleton (Observation.slot id)]
  rfl

theorem State.lane_emit_other (config : Config) (state : State) {observation : Observation}
    (announced : observation.announced id = none) (accepted : observation.acceptedCall id = none)
    (slot : observation.slot id = none) :
    (state.emit [observation]).lane config id = state.lane config id := by
  rw [State.lane_emit, announced, accepted, slot]
  simp

theorem State.lane_writeBack (config : Config) (state : State) (command : Command) (status id : Nat) :
    (finishUbaseDescriptor state command status).lane config id = state.lane config id := by
  rw [finishUbaseDescriptor, State.lane_call_other config _ rfl rfl,
    State.lane_emit_other config _ rfl rfl rfl]

/-- What the lane of a queue holds; a JFC without a queue has nothing waiting. -/
theorem State.lane_pending (config : Config) (state : State) (id : Nat) :
    ((state.jfcPublications.lookup id).getD {}).pending = (state.lane config id).pending ∧
      ((state.jfcPublications.lookup id).getD {}).load config = (state.lane config id).load := by
  cases found : state.jfcPublications.lookup id with
  | none => simp [State.lane, State.pendingFor, State.load, found, PublicationQueue.load]
  | some queue => simp [State.lane, State.pendingFor, State.load, found]

end Components

/-! ## Calls of `WriteCqe` -/

section Functions

variable {config : Config} {state : State} {id other : Nat} {input : Input}

theorem writeCqe_lane (config : Config) (state : State) (id : Nat) (cqe : Cqe) (other : Nat) :
    Lane.Move config.pipelinedCompletionDma input other (state.lane config other)
      ((writeCqe state id cqe).lane config other) := by
  obtain ⟨pending, load⟩ := state.lane_pending config id
  unfold writeCqe
  generalize (state.jfcPublications.lookup id).getD {} = queue at pending load ⊢
  generalize published : Publication.mk state.calls
    ((state.jfcs.lookup id).map Jfc.generation) cqe = publication
  have call : publication.call = state.calls := by rw [← published]
  have counted : ({ state with calls := state.calls + 1 } : State).lane config other =
      { state.lane config other with calls := state.calls + 1 } := rfl
  by_cases same : other = id
  · subst same
    have origin : publication.origin = (state.lane config other).ring.map Ring.generation := by
      rw [← published]
      simp [State.lane, State.ring, Jfc.ring, Function.comp_def]
    have announced : (({ state with calls := state.calls + 1 } : State).emit
        [.called other publication]).lane config other =
        { state.lane config other with
          calls := state.calls + 1
          announced := (state.lane config other).announced ++ [publication] } := by
      rw [State.lane_emit, counted]
      simp [Observation.announced, Observation.acceptedCall, Observation.slot]
    split
    next =>
      rw [State.lane_push, announced]
      exact .turnedAway publication call origin
    next =>
      simp only
      have loaded : PublicationQueue.load config
          { queue with pending := queue.pending ++ [publication] } =
          (state.lane config other).load := load
      rw [State.lane_push, State.lane_emit, State.lane_setQueue, announced, loaded, pending]
      simp only [Observation.announced, Observation.acceptedCall, Observation.slot, if_true,
        Option.toList_none, Option.toList_some, List.append_nil]
      exact .accepted publication call origin
  · have apart : id ≠ other := Ne.symm same
    have silent : (({ state with calls := state.calls + 1 } : State).emit
        [.called id publication]).lane config other =
        { state.lane config other with calls := state.calls + 1 } := by
      rw [State.lane_emit_other config _ (by simp [Observation.announced, apart]) rfl rfl, counted]
    split
    next =>
      rw [State.lane_push, silent]
      exact .kept _ _ (Nat.le_succ _) le_rfl
    next =>
      simp only
      rw [State.lane_push,
        State.lane_emit_other config _ rfl (by simp [Observation.acceptedCall, apart]) rfl,
        State.lane_setQueue_other config _ _ same, silent]
      exact .kept _ _ (Nat.le_succ _) le_rfl

/-! ## Publication -/

theorem reserveCqe_lane (config : Config) (state : State) (id : Nat) (jfc : Jfc)
    (consumer : Nat) :
    (reserveCqe config state id jfc consumer).lane config id =
      { state.lane config id with
        ring := some { jfc.ring with
          consumer := consumer
          producer := if config.pipelinedCompletionDma then jfc.producer + 1 else jfc.producer } } := by
  unfold reserveCqe
  split
  next => exact State.lane_setJfc config state id _
  next => exact State.lane_setJfc config state id _

theorem reserveCqe_lane_other (config : Config) (state : State) (jfc : Jfc) (consumer : Nat)
    (different : other ≠ id) :
    (reserveCqe config state id jfc consumer).lane config other = state.lane config other := by
  unfold reserveCqe
  split <;> exact State.lane_setJfc_other config state _ different

/-- A publication gets a slot, or is refused. -/
theorem publish_lane (config : Config) (state : State) (ticket id : Nat)
    (publication : Publication) (consumer : Option Nat) :
    (publish config state ticket id publication consumer).lane config id = state.lane config id ∨
      ∃ ring index, (state.lane config id).ring = some ring ∧ consumer = some index ∧
        ring.usedSince index < ring.depth ∧
        (publish config state ticket id publication consumer).lane config id =
          (state.lane config id).reserve config.pipelinedCompletionDma ring publication index := by
  unfold publish
  split
  next index jfc found =>
    split
    next => exact .inl rfl
    next room =>
      refine .inr ⟨jfc.ring, index, State.ring_of_lookup found, rfl, Nat.not_le.mp room, ?_⟩
      rw [State.lane_call, State.lane_emit, reserveCqe_lane]
      simp [Callback.reading, Callback.writing, Observation.announced, Observation.acceptedCall,
        Observation.slot, Lane.reserve, Jfc.ring, Ring.slot, Ring.depth, Jfc.depth, Jfc.owner,
        Jfc.slotAddress]
  next => exact .inl rfl

theorem publish_lane_other (config : Config) (state : State) (ticket : Nat)
    (publication : Publication) (consumer : Option Nat) (different : other ≠ id) :
    (publish config state ticket id publication consumer).lane config other =
      state.lane config other := by
  have apart : id ≠ other := Ne.symm different
  unfold publish
  split
  next jfc found =>
    split
    next => rfl
    next =>
      rw [State.lane_call_other config _ rfl (by simp [Callback.writing, apart]),
        State.lane_emit_other config _ rfl rfl (by simp [Observation.slot, apart]),
        reserveCqe_lane_other config state jfc _ different]
  next => rfl

/-! ## Admission -/

theorem grant_lane (config : Config) (state : State) {queue : PublicationQueue}
    (publication : Publication) (rest : List Publication)
    (found : state.jfcPublications.lookup id = some queue)
    (free : ¬ queue.running ∨ config.pipelinedCompletionDma) :
    (grant config state id queue publication rest).lane config id =
      (state.lane config id).granted rest := by
  have load : (state.lane config id).load = queue.load config := State.load_eq found
  have admitted : (queue.admitted config rest).load config = queue.load config + 1 := by
    unfold PublicationQueue.load PublicationQueue.admitted
    cases mode : config.pipelinedCompletionDma with
    | true => simp
    | false =>
        have idle : queue.running = false := by simpa [mode] using free
        simp [idle]
  have pending : (queue.admitted config rest).pending = rest := by
    unfold PublicationQueue.admitted
    split <;> rfl
  unfold grant
  rw [State.lane_push, State.lane_emit_other config _ rfl rfl rfl]
  refine (State.lane_setQueue config state id (queue.admitted config rest)).trans ?_
  rw [pending, admitted, ← load]
  rfl

theorem grant_lane_other (config : Config) (state : State) (queue : PublicationQueue)
    (publication : Publication) (rest : List Publication) (different : other ≠ id) :
    (grant config state id queue publication rest).lane config other =
      state.lane config other := by
  unfold grant
  rw [State.lane_push, State.lane_emit_other config _ rfl rfl rfl]
  exact State.lane_setQueue_other config state _ different

theorem writeCqeNow_lane_other (config : Config) (state : State) (ticket : Nat)
    (publication : Publication) (different : other ≠ id) :
    (writeCqeNow config state ticket id publication).lane config other =
      state.lane config other := by
  have apart : id ≠ other := Ne.symm different
  unfold writeCqeNow
  split
  next => rfl
  next =>
    split
    next => exact publish_lane_other config state ticket publication _ different
    next => exact State.lane_call_other config state (by simp [Callback.reading, apart]) rfl

theorem admitJfcPublications_lane (config : Config) (state : State) (id other : Nat) :
    Lane.Move config.pipelinedCompletionDma input other (state.lane config other)
      ((admitJfcPublications config state id).lane config other) := by
  unfold admitJfcPublications
  split
  next => exact .of_eq rfl
  next queue found =>
    split
    next => exact .of_eq rfl
    next publication rest waiting =>
      split
      next conditions =>
        obtain ⟨free, _, may⟩ := conditions
        by_cases same : other = id
        · subst same
          have pending : (state.lane config other).pending = publication :: rest :=
            (State.pendingFor_eq found).trans waiting
          have load : (state.lane config other).load = queue.load config := State.load_eq found
          have admitted := grant_lane config state publication rest found free
          unfold writeCqeNow
          split
          next =>
            rw [State.lane_push, admitted]
            exact .refused pending
          next jfc present =>
            have ring : (state.lane config other).ring = some jfc.ring :=
              State.ring_of_lookup present
            split
            next room =>
              rcases publish_lane config (grant config state other queue publication rest)
                state.tickets other publication (some (jfc.consumer &&& indexMask)) with
                refused | ⟨own, index, held, cached, unused, reserved⟩
              · rw [refused, admitted]
                exact .refused pending
              · rw [reserved, admitted]
                rw [admitted] at held
                obtain rfl := Option.some.inj (held.symm.trans ring)
                obtain rfl := Option.some.inj cached
                exact .reserved room.1 pending ring room.2 unused
            next full =>
              rw [State.lane_call, admitted]
              simp only [Callback.reading, Callback.writing, if_true, Option.toList_some,
                Option.toList_none, List.append_nil]
              refine .refreshing pending ring fun mode => ?_
              have behind : jfc.depth ≤ jfc.used := by
                by_contra less
                exact full ⟨mode, by omega⟩
              refine ⟨?_, behind⟩
              have alone : queue.inFlight = 0 := by
                have present : state.jfcs.lookup other = some jfc := present
                simpa [mayAdmit, mode, present, Nat.not_lt.mpr behind] using may
              rw [load, PublicationQueue.load, if_pos mode, alone]
        · refine .of_eq ?_
          rw [writeCqeNow_lane_other config _ _ publication same,
            grant_lane_other config state queue publication rest same]
      next => exact .of_eq rfl

/-- A queue rewritten with the same publications and the same load. -/
theorem setQueue_lane {old new : PublicationQueue}
    (found : state.jfcPublications.lookup id = some old) (pending : new.pending = old.pending)
    (loaded : new.load config = old.load config) :
    (state.setQueue id new).lane config other = state.lane config other := by
  by_cases same : other = id
  · subst same
    rw [State.lane_setQueue, pending, loaded, ← State.pendingFor_eq found, ← State.load_eq found]
    rfl
  · exact State.lane_setQueue_other config state new same

theorem processJfcPublications_lane (config : Config) (state : State) (id other : Nat) :
    (processJfcPublications config state id).lane config other = state.lane config other := by
  unfold processJfcPublications
  split
  next => rfl
  next queue found =>
    split
    next => rfl
    next =>
      rw [State.lane_push]
      exact setQueue_lane found rfl rfl

theorem leaveJfcPublications_lane (config : Config) (state : State) (id other : Nat) :
    (leaveJfcPublications state id).lane config other = state.lane config other := by
  unfold leaveJfcPublications
  split
  next => rfl
  next queue found =>
    split
    next done =>
      rw [State.lane_push]
      obtain ⟨idle, alone, empty⟩ := done
      have pending : State.pendingFor
          { state with jfcPublications := state.jfcPublications.erase id } other =
          state.pendingFor other := by
        by_cases same : other = id
        · subst same
          rw [State.pendingFor_eq found, empty]
          simp [State.pendingFor]
        · simp [State.pendingFor, AList.lookup_erase_ne same]
      have load : State.load config
          { state with jfcPublications := state.jfcPublications.erase id } other =
          state.load config other := by
        by_cases same : other = id
        · subst same
          rw [State.load_eq found]
          simp [State.load, PublicationQueue.load, alone, idle]
        · simp [State.load, AList.lookup_erase_ne same]
      unfold State.lane
      rw [pending, load]
      rfl
    next => exact setQueue_lane found rfl rfl

theorem releasePublication_lane (config : Config) (state : State) (id other : Nat) :
    Lane.Move config.pipelinedCompletionDma input other (state.lane config other)
      ((releasePublication config state id).lane config other) := by
  unfold releasePublication
  split
  next => exact .of_eq rfl
  next queue found =>
    rw [State.lane_push]
    by_cases same : other = id
    · subst same
      have pending : (queue.released config).pending = queue.pending := by
        unfold PublicationQueue.released
        split <;> rfl
      have load : (queue.released config).load config = queue.load config - 1 := by
        unfold PublicationQueue.load PublicationQueue.released
        cases mode : config.pipelinedCompletionDma with
        | true => simp
        | false => cases queue.running <;> simp
      rw [State.lane_setQueue, pending, load, ← State.pendingFor_eq found, ← State.load_eq found]
      exact .released
    · exact .of_eq (State.lane_setQueue_other config state _ same)

/-! ## Callbacks -/

variable {index : Nat} {callback : Callback} {publication : Publication}

theorem withdraw_lane_other (config : Config)
    (held : state.outstanding[index]? = some callback) (reading : callback.reading id = none)
    (writing : callback.writing id = none) :
    (state.withOutstanding (state.outstanding.eraseIdx index)).lane config id =
      state.lane config id := by
  unfold State.lane
  rw [State.withOutstanding_outstanding, filterMap_eraseIdx_none held reading,
    filterMap_eraseIdx_none held writing]
  rfl

theorem withdraw_lane_reading (config : Config)
    (held : state.outstanding[index]? = some callback)
    (reading : callback.reading id = some publication) :
    ∃ earlier later, (state.lane config id).reading = earlier ++ publication :: later ∧
      (state.withOutstanding (state.outstanding.eraseIdx index)).lane config id =
        { state.lane config id with reading := earlier ++ later } := by
  obtain ⟨earlier, later, shape, erased⟩ := filterMap_eraseIdx_some held reading
  have writing : callback.writing id = none := by
    cases callback <;> first | rfl | simp [Callback.reading] at reading
  refine ⟨earlier, later, shape, ?_⟩
  unfold State.lane
  rw [State.withOutstanding_outstanding, erased, filterMap_eraseIdx_none held writing]
  rfl

theorem withdraw_lane_writing (config : Config)
    (held : state.outstanding[index]? = some callback)
    (writing : callback.writing id = some publication) :
    ∃ earlier later, (state.lane config id).writing = earlier ++ publication :: later ∧
      (state.withOutstanding (state.outstanding.eraseIdx index)).lane config id =
        { state.lane config id with writing := earlier ++ later } := by
  obtain ⟨earlier, later, shape, erased⟩ := filterMap_eraseIdx_some held writing
  have reading : callback.reading id = none := by
    cases callback <;> first | rfl | simp [Callback.writing] at writing
  refine ⟨earlier, later, shape, ?_⟩
  unfold State.lane
  rw [State.withOutstanding_outstanding, erased, filterMap_eraseIdx_none held reading]
  rfl

theorem consumerRead_lane (config : Config) {ticket : Nat}
    (held : state.outstanding[index]? = some (.consumerRead ticket id publication)) (ok : Bool)
    (bytes : Bytes) (other : Nat) :
    Lane.Move config.pipelinedCompletionDma (state.input (.fire index ok bytes)) other
      (state.lane config other)
      ((consumerRead config (state.withOutstanding (state.outstanding.eraseIdx index)) ticket id
        publication ok bytes).lane config other) := by
  unfold consumerRead
  by_cases same : other = id
  · subst same
    have own : Callback.reading other (.consumerRead ticket other publication) =
        some publication := by simp [Callback.reading]
    obtain ⟨earlier, later, shape, withdrawn⟩ := withdraw_lane_reading config held own
    rcases publish_lane config (state.withOutstanding (state.outstanding.eraseIdx index)) ticket
      other publication (if ok && bytes.length == 4 then some (load32 bytes 0 &&& indexMask)
        else none) with refused | ⟨ring, consumer, found, read, unused, reserved⟩
    · rw [refused, withdrawn]
      exact .unread shape
    · rw [withdrawn] at found reserved
      have refresh : (state.input (.fire index ok bytes)).refresh = some (other, consumer) := by
        simp only [State.input, held, Option.map_some, Option.getD_some, Callback.input,
          consumerIndex, read]
      rw [reserved]
      exact .refreshed shape found refresh unused
  · refine .of_eq ?_
    rw [publish_lane_other config _ ticket publication _ same]
    exact withdraw_lane_other config held (by simp [Callback.reading, Ne.symm same]) rfl

/-- The JFC behind a visible CQE keeps its ring. -/
theorem moderate_lane (config : Config) (state : State) (ticket id call : Nat) (jfc : Jfc)
    (other : Nat) :
    (moderate state ticket id call jfc).lane config other =
      (state.setJfc id jfc).lane config other := by
  have armed (jfc : Jfc) (now : Nat) : (jfc.armModeration now).ring = jfc.ring := by
    unfold Jfc.armModeration Jfc.ring
    split <;> simp only
  have replaced (new : Jfc) (ring : new.ring = jfc.ring) :
      (state.setJfc id new).lane config other = (state.setJfc id jfc).lane config other := by
    by_cases same : other = id
    · subst same
      rw [State.lane_setJfc, State.lane_setJfc, ring]
    · rw [State.lane_setJfc_other config _ _ same, State.lane_setJfc_other config _ _ same]
  unfold moderate
  split
  next =>
    rw [State.lane_push]
    exact replaced _ ((armed _ _).trans rfl)
  next =>
    rw [State.lane_push, State.lane_emit_other config _ rfl rfl rfl]
    exact replaced _ rfl

theorem settleCqe_lane (config : Config) {jfc : Jfc} (left : Nat)
    (found : state.jfcs.lookup id = some jfc) (other : Nat) :
    (settleCqe state id jfc left).lane config other = state.lane config other := by
  have ring : (state.setJfc id { jfc with cqeWritePending := left != 0 }).ring = state.ring :=
    State.ring_setJfc_same found rfl
  change (state.setJfc id { jfc with cqeWritePending := left != 0 }).lane config other = _
  unfold State.lane
  rw [ring]
  rfl

/-- What the end of a CQE write does to the ring, besides the publication it ends. -/
theorem cqeWritten_lane (config : Config) (state : State) (ticket id : Nat)
    (publication : Publication) (ok : Bool) :
    ∃ ring, (ring = (state.lane config id).ring ∨ config.pipelinedCompletionDma = false ∧
        ∃ old, (state.lane config id).ring = some old ∧
          ring = some { old with producer := old.producer + 1 }) ∧
      (cqeWritten config state ticket id publication ok).lane config id =
        { state.lane config id with ring := ring } := by
  unfold cqeWritten
  split
  next => exact ⟨_, .inl rfl, rfl⟩
  next jfc found =>
    have ring : (state.lane config id).ring = some jfc.ring := State.ring_of_lookup found
    split
    next =>
      split
      next => exact ⟨_, .inl rfl, rfl⟩
      next => exact ⟨_, .inl rfl, rfl⟩
      next left _ =>
        have settled := settleCqe_lane config left found id
        split
        next =>
          refine ⟨_, .inl rfl, ?_⟩
          rw [moderate_lane, State.lane_setJfc, settled, ring]
          rfl
        next => exact ⟨_, .inl rfl, settled⟩
    next serial =>
      split
      next =>
        refine ⟨some { jfc.ring with producer := jfc.producer + 1 },
          .inr ⟨by simpa using serial, jfc.ring, ring, rfl⟩, ?_⟩
        rw [moderate_lane, State.lane_setJfc]
        rfl
      next =>
        refine ⟨_, .inl rfl, ?_⟩
        rw [State.lane_push, State.lane_setJfc, ring]
        rfl

theorem cqeWritten_lane_other (config : Config) (state : State) (ticket : Nat)
    (publication : Publication) (ok : Bool) (different : other ≠ id) :
    (cqeWritten config state ticket id publication ok).lane config other =
      state.lane config other := by
  unfold cqeWritten
  split
  next => rfl
  next jfc found =>
    split
    next =>
      split
      next => rfl
      next => rfl
      next left _ =>
        have settled := settleCqe_lane config left found other
        split
        next => rw [moderate_lane, State.lane_setJfc_other config _ _ different, settled]
        next => exact settled
    next =>
      split
      next => rw [moderate_lane, State.lane_setJfc_other config _ _ different]
      next => rw [State.lane_push, State.lane_setJfc_other config _ _ different]

theorem cqeWrite_lane (config : Config) {ticket : Nat}
    (held : state.outstanding[index]? = some (.cqeWritten ticket id publication)) (ok : Bool)
    (other : Nat) :
    Lane.Move config.pipelinedCompletionDma input other (state.lane config other)
      ((cqeWritten config (state.withOutstanding (state.outstanding.eraseIdx index)) ticket id
        publication ok).lane config other) := by
  by_cases same : other = id
  · subst same
    have own : Callback.writing other (.cqeWritten ticket other publication) =
        some publication := by simp [Callback.writing]
    obtain ⟨earlier, later, shape, withdrawn⟩ := withdraw_lane_writing config held own
    obtain ⟨ring, moved, written⟩ := cqeWritten_lane config
      (state.withOutstanding (state.outstanding.eraseIdx index)) ticket other publication ok
    rw [withdrawn] at moved written
    rw [written]
    exact .written shape moved
  · refine .of_eq ?_
    rw [cqeWritten_lane_other config _ ticket publication ok same]
    exact withdraw_lane_other config held rfl (by simp [Callback.writing, Ne.symm same])

/-! ## Commands -/

theorem queryRead_lane (config : Config) {command : Command}
    (held : state.outstanding[index]? = some (.queryRead command)) (ok : Bool) (bytes : Bytes)
    (other : Nat) :
    Lane.Move config.pipelinedCompletionDma (state.input (.fire index ok bytes)) other
      (state.lane config other)
      ((queryRead (state.withOutstanding (state.outstanding.eraseIdx index)) command ok
        bytes).lane config other) := by
  have withdrawn : (state.withOutstanding (state.outstanding.eraseIdx index)).lane config other =
      state.lane config other := withdraw_lane_other config held rfl rfl
  rcases queryRead_cases (state.withOutstanding (state.outstanding.eraseIdx index)) command ok
    bytes with same | ⟨jfc, found, rfl, width, same⟩
  · rw [same, State.lane_writeBack, withdrawn]
    exact .of_eq rfl
  · rw [same, State.lane_call_other config _ rfl rfl]
    by_cases own : other = command.tag
    · subst own
      rw [State.lane_setJfc, withdrawn]
      have asked : (state.input (.fire index true bytes)).query =
          some (command.tag, load32 bytes 0 &&& indexMask) := by
        simp [State.input, Callback.input, consumerIndex, held, width]
      have ring : (state.lane config command.tag).ring = some jfc.ring :=
        State.ring_of_lookup found
      exact .queried asked ring
    · rw [State.lane_setJfc_other config _ _ own, withdrawn]
      exact .of_eq rfl

theorem Issued.lane {after : State} (issued : Issued state after) (config : Config) (id : Nat) :
    after.lane config id = state.lane config id := by
  cases issued with
  | read callback own plain =>
      cases callback with
      | contextRead _ | queryRead _ | queryWritten _ | descriptorWritten =>
          exact State.lane_call_other config state rfl rfl
      | _ => simp [Callback.mailbox] at own
  | writeBack command status => exact State.lane_writeBack config state command status id

theorem modified_lane (config : Config) {command : Command} {jfc : Jfc} (context : Bytes)
    (found : state.jfcs.lookup command.tag = some jfc) (other : Nat) :
    (finishUbaseDescriptor (state.setJfc command.tag (jfc.modify context)) command 0).lane config
      other = state.lane config other := by
  rw [State.lane_writeBack]
  have ring : (state.setJfc command.tag (jfc.modify context)).ring = state.ring :=
    State.ring_setJfc_same found rfl
  unfold State.lane
  rw [ring]
  rfl

/-- A JFC comes into being; the record of commands has no lane. -/
theorem decodeJfc_ring {context : Bytes} {generation : Nat} {jfc : Jfc}
    (decoded : decodeJfc context generation = some jfc) :
    jfc.ring = ⟨generation, jfc.queueIova, jfc.shift, 0, 0⟩ := by
  unfold decodeJfc at decoded
  simp only at decoded
  split at decoded
  next => simp at decoded
  next =>
    obtain rfl := Option.some.inj decoded
    rfl

/-- The new context is all that a create command adds to the lanes. -/
theorem installed_lane (config : Config) (state : State) (command : Command) (context : Bytes)
    {jfc : Jfc} (other : Nat) :
    (finishUbaseDescriptor
      { state.setJfc command.tag jfc with
        generations := state.generations + 1
        armedJfcs := state.armedJfcs.erase command.tag
        jfcCqeDmaInFlight := state.jfcCqeDmaInFlight.erase command.tag
        jfcQueryContexts := state.jfcQueryContexts.insert command.tag (context.take 128)
        jfcCeqs := state.jfcCeqs.insert command.tag (word context 2 >>> 24) } command 0).lane
          config other =
      { (state.setJfc command.tag jfc).lane config other with
        generations := state.generations + 1 } :=
  State.lane_writeBack config _ command 0 other

/-- What `ApplyUbaseMailbox` does to the lanes: only a create command changes one. -/
theorem applyUbaseMailbox_lane (config : Config) (state : State) (command : Command)
    (context : Bytes) (other : Nat) :
    (applyUbaseMailbox state command context).lane config other = state.lane config other ∨
      ∃ jfc, command.opcode = .createJfc ∧ decodeJfc context state.generations = some jfc ∧
        (applyUbaseMailbox state command context).lane config other =
          { (state.setJfc command.tag jfc).lane config other with
            generations := state.generations + 1 } := by
  unfold applyUbaseMailbox
  split
  next =>
    split
    next => exact .inl (State.lane_writeBack config state command 22 other)
    next => exact .inl (State.lane_writeBack config _ command 0 other)
  next isCreate =>
    split
    next => exact .inl (State.lane_writeBack config state command 22 other)
    next jfc decoded =>
      exact .inr ⟨jfc, isCreate, decoded, installed_lane config state command context other⟩
  next =>
    split
    next => exact .inl (State.lane_writeBack config state command 2 other)
    next jfc found => exact .inl (modified_lane config context found other)
  all_goals exact .inl (State.lane_writeBack config state command 0 other)

theorem contextRead_lane (config : Config) {command : Command}
    (held : state.outstanding[index]? = some (.contextRead command)) (ok : Bool) (bytes : Bytes)
    (other : Nat) :
    Lane.Move config.pipelinedCompletionDma (state.input (.fire index ok bytes)) other
      (state.lane config other)
      ((contextRead (state.withOutstanding (state.outstanding.eraseIdx index)) command ok
        bytes).lane config other) := by
  have withdrawn : (state.withOutstanding (state.outstanding.eraseIdx index)).lane config other =
      state.lane config other := withdraw_lane_other config held rfl rfl
  unfold contextRead
  split
  next =>
    rcases applyUbaseMailbox_lane config (state.withOutstanding (state.outstanding.eraseIdx index))
      command bytes other with same | ⟨jfc, isCreate, decoded, installed⟩
    · rw [same, withdrawn]
      exact .of_eq rfl
    · rw [installed]
      by_cases own : other = command.tag
      · subst own
        rw [State.lane_setJfc, withdrawn, decodeJfc_ring decoded]
        refine .installed jfc.queueIova jfc.shift ?_
        simp [State.input, Callback.input, held, isCreate]
      · rw [State.lane_setJfc_other config _ _ own, withdrawn]
        exact .kept _ _ le_rfl (Nat.le_succ _)
  next =>
    rw [State.lane_writeBack, withdrawn]
    exact .of_eq rfl

theorem queryWritten_lane (config : Config) {command : Command}
    (held : state.outstanding[index]? = some (.queryWritten command)) (ok : Bool) (other : Nat) :
    (queryWritten (state.withOutstanding (state.outstanding.eraseIdx index)) command ok).lane
      config other = state.lane config other := by
  have withdrawn : (state.withOutstanding (state.outstanding.eraseIdx index)).lane config other =
      state.lane config other := withdraw_lane_other config held rfl rfl
  unfold queryWritten
  split
  next =>
    rcases applyUbaseMailbox_lane config (state.withOutstanding (state.outstanding.eraseIdx index))
      command [] other with same | ⟨jfc, _, decoded, _⟩
    · rw [same, withdrawn]
    · rw [decodeJfc_nil] at decoded
      simp at decoded
  next => rw [State.lane_writeBack, withdrawn]

/-- Nothing waits for a JFC that is not busy, and nothing of it is in flight. -/
theorem unloaded_of_idle (config : Config) {state : State} {id : Nat}
    (idle : state.jfcPublicationBusy id = false) :
    state.pendingFor id = [] ∧ state.load config id = 0 := by
  have inactive : (state.jfcPublications.lookup id).any PublicationQueue.active = false := by
    simp only [State.jfcPublicationBusy, Bool.or_eq_false_iff] at idle
    exact idle.2
  cases found : state.jfcPublications.lookup id with
  | none => simp [State.pendingFor, State.load, found]
  | some queue =>
      simp only [found, Option.any_some, PublicationQueue.active, Bool.or_eq_false_iff,
        bne_eq_false_iff_eq, Bool.not_eq_false', List.isEmpty_iff] at inactive
      simp [State.pendingFor, State.load, found, PublicationQueue.load, inactive]

/-- A JFC is erased when nothing waits for it and nothing of it is in flight. -/
theorem eraseJfc_lane (config : Config) (state : State) (id other : Nat)
    (idle : state.jfcPublicationBusy id = false) :
    Lane.Move config.pipelinedCompletionDma input other (state.lane config other)
      ((eraseJfc config state id).lane config other) := by
  by_cases same : other = id
  · subst same
    have empty : (state.lane config other).pending = [] ∧ (state.lane config other).load = 0 :=
      unloaded_of_idle config idle
    have erased : (eraseJfc config state other).lane config other =
        { state.lane config other with ring := none } := by
      have ring : (eraseJfc config state other).ring other = none := by
        simp [State.ring, eraseJfc]
      unfold State.lane
      rw [ring]
      rfl
    rw [erased]
    exact .erased empty.1 empty.2
  · refine .of_eq ?_
    have ring : (eraseJfc config state id).ring other = state.ring other := by
      simp [State.ring, eraseJfc, AList.lookup_erase_ne same]
    unfold State.lane
    rw [ring]
    rfl

theorem Handled.lane {command : Command} {after : State}
    (handled : Handled config state command after) (other : Nat) :
    Lane.Move config.pipelinedCompletionDma input other (state.lane config other)
      (after.lane config other) := by
  cases handled with
  | issued issued => exact .of_eq (issued.lane config other)
  | creating isCreate absent => exact .of_eq (State.lane_call_other config state rfl rfl)
  | creatingCeq isCreate idle => exact .of_eq (State.lane_call_other config state rfl rfl)
  | deferredCeq busy => exact .of_eq rfl
  | deferredJfc busy => exact .of_eq rfl
  | erasedCeq idle =>
      rw [State.lane_writeBack]
      exact .of_eq rfl
  | erasedJfc idle =>
      rw [State.lane_writeBack]
      exact eraseJfc_lane config state command.tag other idle

theorem maybeCompleteJfcDestroy_lane (config : Config) (state : State) (other : Nat) :
    Lane.Move config.pipelinedCompletionDma input other (state.lane config other)
      ((maybeCompleteJfcDestroy config state).lane config other) := by
  unfold maybeCompleteJfcDestroy
  split
  next => exact .of_eq rfl
  next command _ =>
    split
    next => exact .of_eq rfl
    next => exact (handleUbaseMailbox_handled config
        { state with pendingJfcDestroy := none, drainingJfcId := none } command).lane other

theorem maybeCompleteEqDestroy_lane (config : Config) (state : State) (other : Nat) :
    Lane.Move config.pipelinedCompletionDma input other (state.lane config other)
      ((maybeCompleteEqDestroy config state).lane config other) := by
  unfold maybeCompleteEqDestroy
  split
  next => exact .of_eq rfl
  next command _ =>
    split
    next => exact .of_eq rfl
    next => exact (handleUbaseMailbox_handled config
        { state with pendingEqDestroy := none, drainingCeqId := none } command).lane other

/-! ## Steps -/

theorem runTask_lane {task : Task} {after : State}
    (ran : runTask config state task = some after) (other : Nat) :
    Lane.Move config.pipelinedCompletionDma input other (state.lane config other)
      (after.lane config other) := by
  by_cases aside : task.aside = true
  · exact .of_eq ((runTask_aside aside ran).lane config other)
  cases task with
  | processJfcPublications id =>
      obtain rfl := Option.some.inj ran
      exact .of_eq (processJfcPublications_lane config state id other)
  | admitJfcPublications id =>
      obtain rfl := Option.some.inj ran
      exact admitJfcPublications_lane config state id other
  | leaveJfcPublications id =>
      obtain rfl := Option.some.inj ran
      exact .of_eq (leaveJfcPublications_lane config state id other)
  | releasePublication id =>
      obtain rfl := Option.some.inj ran
      exact releasePublication_lane config state id other
  | maybeCompleteJfcDestroy =>
      obtain rfl := Option.some.inj ran
      exact maybeCompleteJfcDestroy_lane config state other
  | maybeCompleteEqDestroy =>
      obtain rfl := Option.some.inj ran
      exact maybeCompleteEqDestroy_lane config state other
  | _ => simp [Task.aside] at aside

theorem runCallback_lane (config : Config) (held : state.outstanding[index]? = some callback)
    (ok : Bool) (bytes : Bytes) (other : Nat) :
    Lane.Move config.pipelinedCompletionDma (state.input (.fire index ok bytes)) other
      (state.lane config other)
      ((runCallback config (state.withOutstanding (state.outstanding.eraseIdx index)) ok bytes
        callback).lane config other) := by
  cases callback with
  | consumerRead ticket id publication => exact consumerRead_lane config held ok bytes other
  | cqeWritten ticket id publication => exact cqeWrite_lane config held ok other
  | ceqeWritten ticket ceqId vector =>
      refine .of_eq (((ceqeWritten_aside _ ticket ceqId ok).lane config other).trans ?_)
      exact withdraw_lane_other config held rfl rfl
  | interruptRaised ticket => exact .of_eq (withdraw_lane_other config held rfl rfl)
  | contextRead command => exact contextRead_lane config held ok bytes other
  | queryRead command => exact queryRead_lane config held ok bytes other
  | queryWritten command => exact .of_eq (queryWritten_lane config held ok other)
  | descriptorWritten => exact .of_eq (withdraw_lane_other config held rfl rfl)

theorem environment_lane {event : Event} {after : State}
    (acted : environment config state event = some after) (other : Nat) :
    Lane.Move config.pipelinedCompletionDma (state.input event) other
      (state.lane config other) (after.lane config other) := by
  cases event with
  | run => simp [environment] at acted
  | beginPass expired => simp [environment] at acted
  | fire index ok bytes =>
      simp only [environment] at acted
      cases held : state.outstanding[index]? with
      | none => simp [held] at acted
      | some callback =>
          simp only [held, Option.some.injEq] at acted
          subst acted
          exact runCallback_lane config held ok bytes other
  | writeCqe id cqe =>
      obtain rfl := Option.some.inj acted
      exact writeCqe_lane config state id cqe other
  | mailbox command =>
      simp only [environment] at acted
      split at acted
      next => simp at acted
      next =>
        obtain rfl := Option.some.inj acted
        exact (handleUbaseMailbox_handled config { state with ubaseBusy := true } command).lane other
  | ceqDoorbell value =>
      obtain rfl := Option.some.inj acted
      exact .of_eq ((ceqDoorbell_aside state value).lane config other)
  | jfcDoorbell value =>
      obtain rfl := Option.some.inj acted
      exact .of_eq ((jfcDoorbell_aside config state value).lane config other)
  | advanceTime now =>
      simp only [environment] at acted
      split at acted
      next =>
        obtain rfl := Option.some.inj acted
        exact .of_eq rfl
      next =>
        obtain rfl := Option.some.inj acted
        exact .of_eq rfl

theorem step_lane {event : Event} {after : State} (taken : step config state event = some after)
    (other : Nat) :
    Lane.Move config.pipelinedCompletionDma (state.input event) other
      (state.lane config other) (after.lane config other) := by
  rcases step_cases taken with ⟨task, rest, _, ran⟩ | ⟨expired, rest, _, _, rfl⟩ | acted
  · exact runTask_lane ran other
  · exact .of_eq ((beginPass_aside (state.withStack rest) expired).lane config other)
  · exact environment_lane acted other

end Functions

end Udma.Cq
