import Udma.Sq.Routes
import Udma.Sq.Staging

/-!
# Frames that a source emits

Only descriptors with a known opcode reach `SubmitSqPayload`, so a WRITE frame is
always built for opcode 3 and announces the length of the payload it carries.
-/

namespace Udma.Sq

open Udma.Abi Udma.Arithmetic Udma.Collections Udma.Transition

/-- The payload of the descriptor goes into a WRITE only for opcode 3. -/
def Known (raw : Bytes) : Prop := payloadOperation raw = .write → SqWqe.opcode raw = 3

/-- A WRITE announces what it carries. -/
def Frame.Announced (frame : Frame) : Prop :=
  frame.operation = .write → frame.transferLength = frame.bytes.length

/-- The descriptors on their way into a frame, and the frames sent. -/
structure Outbox where
  submissions : List Bytes
  reads : List Bytes
  frames : List Frame

structure Outbox.Sound (outbox : Outbox) : Prop where
  submissions : ∀ raw ∈ outbox.submissions, Known raw
  reads : ∀ raw ∈ outbox.reads, Known raw
  frames : ∀ frame ∈ outbox.frames, frame.Announced

def Lane.outbox (lane : Lane) : Outbox where
  submissions := gather Task.payload lane.tasks
  reads := gather Callback.payload lane.calls
  frames := gather Observation.frame lane.trace

theorem known_of_write {raw : Bytes} (write : SqWqe.opcode raw = 3) : Known raw := fun _ => write

theorem Admitted.known {config : Config} {state : State} {jetty : Jetty} {raw : Bytes}
    {route : TpRoute} (admitted : Admitted config state jetty raw route)
    (notRead : SqWqe.opcode raw ≠ 6) : Known raw := by
  have header := admitted.header
  simp only [headerValid, Bool.and_eq_true, Bool.or_eq_true, beq_iff_eq] at header
  intro write
  unfold payloadOperation at write
  split at write
  · cases write
  · split at write
    · cases write
    · omega

namespace Outbox.Sound

variable {submissions reads : List Bytes} {frames : List Frame}

theorem submit (sound : Sound ⟨submissions, reads, frames⟩) {raw : Bytes} (known : Known raw) :
    Sound ⟨raw :: submissions, reads, frames⟩ where
  submissions := List.forall_mem_cons.mpr ⟨known, sound.submissions⟩
  reads := sound.reads
  frames := sound.frames

theorem read (sound : Sound ⟨submissions, reads, frames⟩) {raw : Bytes} (known : Known raw) :
    Sound ⟨submissions, reads ++ [raw], frames⟩ where
  submissions := sound.submissions
  reads := List.forall_mem_append.mpr ⟨sound.reads, by simpa using known⟩
  frames := sound.frames

theorem send (sound : Sound ⟨submissions, reads, frames⟩) {frame : Frame}
    (announced : frame.Announced) : Sound ⟨submissions, reads, frames ++ [frame]⟩ where
  submissions := sound.submissions
  reads := sound.reads
  frames := List.forall_mem_append.mpr ⟨sound.frames, by simpa using announced⟩

/-- A submission leaves. -/
theorem leave {raw : Bytes} (sound : Sound ⟨raw :: submissions, reads, frames⟩) :
    Sound ⟨submissions, reads, frames⟩ where
  submissions := (List.forall_mem_cons.mp sound.submissions).2
  reads := sound.reads
  frames := sound.frames

/-- A payload read returns. -/
theorem arrive {raw : Bytes} (sound : Sound ⟨submissions, raw :: reads, frames⟩) :
    Known raw ∧ Sound ⟨submissions, reads, frames⟩ where
  left := (List.forall_mem_cons.mp sound.reads).1
  right := ⟨sound.submissions, (List.forall_mem_cons.mp sound.reads).2, sound.frames⟩

theorem perm {others : List Bytes} (sound : Sound ⟨submissions, reads, frames⟩)
    (same : reads.Perm others) : Sound ⟨submissions, others, frames⟩ where
  submissions := sound.submissions
  reads raw membership := sound.reads raw (same.symm.subset membership)
  frames := sound.frames

end Outbox.Sound

theorem Ran.framed {config : Config} {base after : State} {id : Nat} {task : Task}
    (ran : Ran config base id task after)
    (staged : ((base.push [task]).lane id).staging.Sound)
    (sound : ((base.push [task]).lane id).outbox.Sound) : (after.lane id).outbox.Sound := by
  unfold Lane.outbox at sound ⊢
  cases ran with
  | absent task missing silent =>
      have fewer : gather Task.payload (base.lane id).tasks ⊆
          gather Task.payload ((base.push [task]).lane id).tasks := by
        simp
      exact ⟨fun raw membership => sound.submissions raw (fewer membership), sound.reads,
        sound.frames⟩
  | completeAbsent | continueLast | continueRead | releaseSqFetch | finishKept =>
      simpa using sound
  | processSq _ _ _ _ _ outcome | resumeSq _ _ _ outcome | processSqLoop _ _ _ _ outcome
  | fillSqCache _ _ _ _ _ outcome | executeSqHead _ _ _ _ _ outcome
  | completeSq _ _ _ _ _ _ outcome =>
      cases outcome <;> simpa using sound
  | handleSqWqe raw jetty _ existing outcome =>
      simp at sound
      cases outcome with
      | failed | released => simpa using sound
      | read route frame pending admitted opcode tpn port owner number request untouched
          operation =>
          have announced : frame.Announced := by
            intro write
            rw [operation] at write
            cases write
          simpa [reserveSq] using sound.send announced
      | prepared => simpa [prepareWrite, reserveSq] using sound
      | rejected => simpa [rejectSend, reserveSq] using sound
      | inlined route payload admitted alone notRead =>
          simpa using sound.submit (admitted.known notRead)
      | reading route observation expected admitted alone observed notRead =>
          subst observed
          simpa using sound.read (admitted.known notRead)
  | drainPreparedWrites jetty _ existing outcome =>
      have same := base.lane_jetty id existing
      simp at sound
      cases outcome with
      | resumed | failed => simpa using sound
      | submitted front rest queue ready intact =>
          have known := (staged.rebuilt front (by simp [Lane.staging, same, queue])).2
          simpa using sound.submit (known_of_write known)
  | submitSqPayload raw payload reserved jetty _ existing outcome =>
      simp at sound
      have known : Known raw := sound.submissions raw List.mem_cons_self
      have rest := sound.leave
      cases outcome with
      | released | lost => simpa using rest
      | freshSend route frame opcode _ found tpn port operation =>
          have announced : frame.Announced := fun write =>
            absurd (known (operation ▸ write)) opcode
          simpa [reserveSq] using rest.send announced
      | freshWrite route frame pending _ _ _ _ _ _ _ _ _ carried =>
          simpa [reserveSq] using rest.send fun _ => carried
      | heldSend held route frame opcode found tpn port operation =>
          have announced : frame.Announced := fun write =>
            absurd (known (operation ▸ write)) opcode
          simpa using rest.send announced
      | heldWrite held route frame pending _ _ _ _ _ _ _ _ carried =>
          simpa using rest.send fun _ => carried
  | retireSq jetty _ existing outcome =>
      cases outcome with
      | skipped => simpa using sound
      | entered =>
          unfold retireLoop
          split <;> simpa using sound
  | retireSqLoop jetty _ existing outcome | retireSqPipelinedLoop jetty _ existing outcome =>
      cases outcome with
      | stopped => simpa using sound
      | published =>
          unfold publishSq
          split <;> simpa using sound
  | finishPopped entry jetty existing =>
      have silent : gather Observation.frame (((jetty.pipe.completions.map fun front =>
          Observation.retired id front.request).take 1).filter (Observation.on id)) = [] := by
        rw [← List.map_take, State.filter_retired, frames_retired]
      simpa [silent] using sound
  | finishSqPipelined entry ok jetty _ existing outcome =>
      cases outcome <;> simpa using sound

theorem Called.framed {config : Config} {base after : State} {ok : Bool} {bytes : Bytes}
    {id : Nat} {callback : Callback} (called : Called config base ok bytes id callback after)
    (sound : (Lane.outbox
      { base.lane id with calls := callback :: (base.lane id).calls }).Sound) :
    (after.lane id).outbox.Sound := by
  unfold Lane.outbox at sound ⊢
  cases called with
  | absent callback missing =>
      have fewer : gather Callback.payload (base.lane id).calls ⊆
          gather Callback.payload (callback :: (base.lane id).calls) := by
        simp
      exact ⟨sound.submissions, fun raw membership => sound.reads raw (fewer membership),
        sound.frames⟩
  | prefetch _ _ _ _ _ outcome | continuation _ _ _ _ _ _ _ outcome =>
      cases outcome <;> simpa using sound
  | writePayload | writeSent | sendDone => simpa using sound
  | sendPayload raw expected jetty _ existing outcome =>
      simp at sound
      obtain ⟨known, rest⟩ := sound.arrive
      cases outcome with
      | failed => simpa using rest
      | arrived => simpa using rest.submit known
  | sendFailed request requestId bad =>
      split
      · simpa [State.lane] using sound
      · simpa using sound
  | cqe entry => split <;> simpa using sound

theorem Acts.framed {config : Config} {id : Nat} {state after : State} {event : Event}
    (acts : Acts config id state event after) (staged : (state.lane id).staging.Sound)
    (sound : (state.lane id).outbox.Sound) : (after.lane id).outbox.Sound := by
  cases acts with
  | task base task _ before own calm ran =>
      exact ran.framed (before ▸ staged) (before ▸ sound)
  | callback index ok bytes callback calls base _ own calm before chosen held called =>
      refine called.framed ?_
      rw [before, State.lane_holding] at sound
      unfold Lane.outbox at sound ⊢
      refine sound.perm (gather_perm ?_)
      have := held.filter (Callback.on id)
      rwa [List.filter_cons_of_pos own] at this
  | progressed _ _ pending progress earlier later observed calm held owner request silent lane =>
      rw [lane]
      unfold Lane.outbox at sound ⊢
      have none : gather Observation.frame observed = [] := by
        rw [gather_eq_nil]
        intro item membership
        obtain ⟨token, address, length, rfl⟩ := silent item membership
        rfl
      simpa [none] using sound
  | finished _ _ pending earlier later status calm held lane =>
      rw [lane]
      unfold Lane.outbox at sound ⊢
      simpa using sound
  | doorbell producer calm =>
      unfold Lane.outbox at sound ⊢
      simpa using sound
  | direct offset data jetty _ calm existing outcome =>
      unfold Lane.outbox at sound ⊢
      cases outcome <;> simpa using sound
  | created context jetty calm missing fresh =>
      unfold Lane.outbox at sound ⊢
      simpa using sound

/-- In every run a WRITE frame announces the length of its payload. -/
theorem announced_of_reaches {config : Config} {guard : State → Event → State → Prop}
    {state : State} (reached : Reaches (step config) guard (State.initial config) state)
    {id position : Nat} {frame : Frame} (sent : .sent id position frame ∈ state.trace) :
    frame.Announced := by
  have sound : (state.lane id).outbox.Sound := by
    refine lane_of_reaches id (fun lane => lane.outbox.Sound) reached ?_ ?_
    · rw [State.initial_lane]
      refine ⟨?_, ?_, ?_⟩ <;> simp [Lane.outbox]
    · intro before event after earlier sound acts _ _
      exact acts.framed (staged_of_reaches earlier id) sound
  apply sound.frames
  have own : Observation.sent id position frame ∈ (state.lane id).trace :=
    List.mem_filter.mpr ⟨sent, by simp⟩
  exact mem_gather.mpr ⟨_, own, rfl⟩

end Udma.Sq
