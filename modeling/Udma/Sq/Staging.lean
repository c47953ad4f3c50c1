import Udma.Sq.Lock

/-!
# Prepared WRITEs

A non-inline WRITE is staged: it waits in the queue of prepared WRITEs for its
payload and is drained in order.  `SubmitSqPayload` then builds its request anew
from the descriptor and the payload; a `Staging` keeps what makes this the request
that was reserved, and what keeps the queue moving.
-/

namespace Udma.Sq

open Udma.Abi Udma.Arithmetic Udma.Collections Udma.Transition

/-- Rebuilding the request from the descriptor and `byteCount` bytes gives it back. -/
def SqRequest.Rebuilt (request : SqRequest) (raw : Bytes) (byteCount : Nat) : Prop :=
  ∀ jetty : Jetty, jetty.requestHeld raw byteCount request = request

theorem Jetty.requestFor_rebuilt (jetty : Jetty) (raw : Bytes) (byteCount : Nat) :
    (jetty.requestFor raw byteCount).Rebuilt raw byteCount := fun _ => rfl

/-- A drained WRITE on its way to the network. -/
structure Submission where
  request : SqRequest
  raw : Bytes
  payload : Bytes

structure Staging where
  issue : Nat
  queue : List PreparedWrite
  submissions : List Submission
  /-- Position and length of the outstanding payload reads. -/
  reads : List (Nat × Nat)
  drains : Nat

namespace Staging

structure Sound (staging : Staging) : Prop where
  below : ∀ prepared ∈ staging.queue, prepared.request.position < staging.issue
  readBelow : ∀ read ∈ staging.reads, read.1 < staging.issue
  rebuilt : ∀ prepared ∈ staging.queue,
    prepared.request.Rebuilt prepared.raw prepared.request.byteCount ∧
      SqWqe.opcode prepared.raw = 3
  arrived : ∀ prepared ∈ staging.queue, prepared.ready = true → prepared.failed = false →
    prepared.payload.length = prepared.request.byteCount
  expected : ∀ read ∈ staging.reads, ∀ prepared ∈ staging.queue,
    prepared.request.position = read.1 → prepared.request.byteCount = read.2
  submitted : ∀ submission ∈ staging.submissions,
    submission.request.Rebuilt submission.raw submission.payload.length ∧
      SqWqe.opcode submission.raw = 3
  waiting : ∀ prepared ∈ staging.queue, prepared.ready = false →
    ∃ read ∈ staging.reads, read.1 = prepared.request.position
  driven : ∀ front ∈ staging.queue.head?, front.ready = true → 0 < staging.drains

variable {issue drains : Nat} {queue : List PreparedWrite} {submissions : List Submission}
  {reads : List (Nat × Nat)}

/-- Submissions leave, `issue` grows, drains may be added. -/
theorem Sound.weaken (sound : Sound ⟨issue, queue, submissions, reads, drains⟩)
    {later more : Nat} {fewer : List Submission} (ahead : issue ≤ later)
    (subset : fewer ⊆ submissions) (enough : drains ≤ more) :
    Sound ⟨later, queue, fewer, reads, more⟩ where
  below prepared membership := Nat.lt_of_lt_of_le (sound.below prepared membership) ahead
  readBelow read membership := Nat.lt_of_lt_of_le (sound.readBelow read membership) ahead
  rebuilt := sound.rebuilt
  arrived := sound.arrived
  expected := sound.expected
  submitted submission membership := sound.submitted submission (subset membership)
  waiting := sound.waiting
  driven front head ready := Nat.lt_of_lt_of_le (sound.driven front head ready) enough

/-- A WRITE is reserved at `issue` and its payload read is issued. -/
theorem Sound.stage (sound : Sound ⟨issue, queue, submissions, reads, drains⟩)
    (prepared : PreparedWrite) {width : Nat} (wide : 0 < width)
    (placed : prepared.request.position = issue)
    (rebuilt : prepared.request.Rebuilt prepared.raw prepared.request.byteCount)
    (write : SqWqe.opcode prepared.raw = 3) (unready : prepared.ready = false) :
    Sound ⟨issue + width, queue ++ [prepared], submissions,
      reads ++ [(issue, prepared.request.byteCount)], drains⟩ := by
  have below : ∀ prepared ∈ queue, prepared.request.position < issue := sound.below
  have readBelow : ∀ read ∈ reads, read.1 < issue := sound.readBelow
  refine ⟨?_, ?_, ?_, ?_, ?_, sound.submitted, ?_, ?_⟩
  · intro other membership
    dsimp only
    rcases List.mem_append.mp membership with old | new
    · have := below other old
      omega
    · obtain rfl : other = prepared := by simpa using new
      omega
  · intro read membership
    dsimp only
    rcases List.mem_append.mp membership with old | new
    · have := readBelow read old
      omega
    · obtain rfl : read = (issue, prepared.request.byteCount) := by simpa using new
      dsimp only
      omega
  · intro other membership
    rcases List.mem_append.mp membership with old | new
    · exact sound.rebuilt other old
    · obtain rfl : other = prepared := by simpa using new
      exact ⟨rebuilt, write⟩
  · intro other membership ready
    rcases List.mem_append.mp membership with old | new
    · exact sound.arrived other old ready
    · obtain rfl : other = prepared := by simpa using new
      simp [unready] at ready
  · intro read readMembership other membership same
    rcases List.mem_append.mp readMembership with oldRead | newRead
    · rcases List.mem_append.mp membership with old | new
      · exact sound.expected read oldRead other old same
      · obtain rfl : other = prepared := by simpa using new
        have := readBelow read oldRead
        omega
    · obtain rfl : read = (issue, prepared.request.byteCount) := by simpa using newRead
      rcases List.mem_append.mp membership with old | new
      · have := below other old
        dsimp only at same
        omega
      · obtain rfl : other = prepared := by simpa using new
        rfl
  · intro other membership waits
    rcases List.mem_append.mp membership with old | new
    · obtain ⟨read, known, same⟩ := sound.waiting other old waits
      exact ⟨read, List.mem_append_left _ known, same⟩
    · obtain rfl : other = prepared := by simpa using new
      exact ⟨(issue, other.request.byteCount), by simp, placed.symm⟩
  · intro front head ready
    cases queue with
    | nil =>
        obtain rfl : prepared = front := by simpa using head
        simp [unready] at ready
    | cons first rest => exact sound.driven front (by simpa using head) ready

/-- A payload read returns, and the queue is drained. -/
theorem Sound.arrive {position expected : Nat}
    (sound : Sound ⟨issue, queue, submissions, (position, expected) :: reads, drains⟩)
    (ok : Bool) (bytes : Bytes) :
    Sound ⟨issue, queue.map fun prepared =>
        if prepared.request.position = position then prepared.arrive expected ok bytes
        else prepared,
      submissions, reads, 1 + drains⟩ := by
  have requests : ∀ prepared : PreparedWrite,
      (prepared.arrive expected ok bytes).request = prepared.request := by
    intro prepared
    unfold PreparedWrite.arrive
    split <;> rfl
  have raws : ∀ prepared : PreparedWrite,
      (prepared.arrive expected ok bytes).raw = prepared.raw := by
    intro prepared
    unfold PreparedWrite.arrive
    split <;> rfl
  refine ⟨?_, ?_, ?_, ?_, ?_, sound.submitted, ?_, ?_⟩
  · intro other membership
    obtain ⟨prepared, known, rfl⟩ := List.mem_map.mp membership
    have := sound.below prepared known
    split
    · rwa [requests]
    · exact this
  · intro read membership
    exact sound.readBelow read (List.mem_cons_of_mem _ membership)
  · intro other membership
    obtain ⟨prepared, known, rfl⟩ := List.mem_map.mp membership
    split
    · rw [requests, raws]
      exact sound.rebuilt prepared known
    · exact sound.rebuilt prepared known
  · intro other membership ready intact
    obtain ⟨prepared, known, rfl⟩ := List.mem_map.mp membership
    by_cases same : prepared.request.position = position
    · rw [if_pos same] at ready intact ⊢
      rw [requests, sound.expected (position, expected) (by simp) prepared known same]
      revert intact
      unfold PreparedWrite.arrive
      split
      next arrived =>
        intro _
        simp only [Bool.and_eq_true, beq_iff_eq] at arrived
        exact arrived.2
      next => simp
    · rw [if_neg same] at ready intact ⊢
      exact sound.arrived prepared known ready intact
  · intro read readMembership other membership same
    obtain ⟨prepared, known, rfl⟩ := List.mem_map.mp membership
    have kept := sound.expected read (List.mem_cons_of_mem _ readMembership) prepared known
    by_cases here : prepared.request.position = position
    · rw [if_pos here, requests] at same ⊢
      exact kept same
    · rw [if_neg here] at same ⊢
      exact kept same
  · intro other membership waits
    obtain ⟨prepared, known, rfl⟩ := List.mem_map.mp membership
    by_cases here : prepared.request.position = position
    · rw [if_pos here] at waits
      have ready : (prepared.arrive expected ok bytes).ready = true := by
        unfold PreparedWrite.arrive
        split <;> rfl
      simp [ready] at waits
    · rw [if_neg here] at waits ⊢
      obtain ⟨read, held, same⟩ := sound.waiting prepared known waits
      rcases List.mem_cons.mp held with rfl | other
      · exact absurd same.symm here
      · exact ⟨read, other, same⟩
  · intro _ _ _
    dsimp only
    omega

/-- The front of the queue is ready and leaves it, with a drain still to come. -/
theorem Sound.drain {front : PreparedWrite}
    (sound : Sound ⟨issue, front :: queue, submissions, reads, 1 + drains⟩)
    (added : List Submission)
    (submitted : ∀ submission ∈ added,
      submission.request.Rebuilt submission.raw submission.payload.length ∧
        SqWqe.opcode submission.raw = 3) :
    Sound ⟨issue, queue, added ++ submissions, reads, 1 + drains⟩ := by
  refine ⟨?_, sound.readBelow, ?_, ?_, ?_, ?_, ?_, ?_⟩
  · exact fun prepared membership => sound.below prepared (List.mem_cons_of_mem _ membership)
  · exact fun prepared membership => sound.rebuilt prepared (List.mem_cons_of_mem _ membership)
  · exact fun prepared membership => sound.arrived prepared (List.mem_cons_of_mem _ membership)
  · exact fun read held prepared membership =>
      sound.expected read held prepared (List.mem_cons_of_mem _ membership)
  · intro submission membership
    rcases List.mem_append.mp membership with new | old
    · exact submitted submission new
    · exact sound.submitted submission old
  · exact fun prepared membership => sound.waiting prepared (List.mem_cons_of_mem _ membership)
  · intro _ _ _
    dsimp only
    omega

/-- The drain stops in front of a WRITE whose payload is missing. -/
theorem Sound.stall (sound : Sound ⟨issue, queue, submissions, reads, 1 + drains⟩)
    (stalled : ∀ front ∈ queue.head?, front.ready = false) :
    Sound ⟨issue, queue, submissions, reads, drains⟩ := by
  refine ⟨sound.below, sound.readBelow, sound.rebuilt, sound.arrived, sound.expected,
    sound.submitted, sound.waiting, ?_⟩
  intro front head ready
  have := stalled front head
  simp [ready] at this

theorem Sound.perm {other : List (Nat × Nat)}
    (sound : Sound ⟨issue, queue, submissions, reads, drains⟩) (same : reads.Perm other) :
    Sound ⟨issue, queue, submissions, other, drains⟩ := by
  refine ⟨sound.below, ?_, sound.rebuilt, sound.arrived, ?_, sound.submitted, ?_, sound.driven⟩
  · exact fun read membership => sound.readBelow read (same.symm.subset membership)
  · exact fun read membership => sound.expected read (same.symm.subset membership)
  · intro prepared membership waits
    obtain ⟨read, held, equal⟩ := sound.waiting prepared membership waits
    exact ⟨read, same.subset held, equal⟩

end Staging

/-! ## Lanes as stagings -/

def Task.submission : Task → Option Submission
  | .submitSqPayload _ raw payload (some request) => some ⟨request, raw, payload⟩
  | _ => none

def Task.drains : Task → Bool
  | .drainPreparedWrites _ => true
  | _ => false

def Callback.payloadRead : Callback → Option (Nat × Nat)
  | .writePayload _ position expected => some (position, expected)
  | _ => none

attribute [simp] Task.submission Task.drains Callback.payloadRead

def Lane.staging (lane : Lane) : Staging where
  issue := lane.pipe.issue
  queue := lane.pipe.preparedWrites
  submissions := gather Task.submission lane.tasks
  reads := gather Callback.payloadRead lane.calls
  drains := tally Task.drains lane.tasks

theorem Ran.staged {config : Config} {base after : State} {id : Nat} {task : Task}
    (ran : Ran config base id task after)
    (sound : ((base.push [task]).lane id).staging.Sound) : (after.lane id).staging.Sound := by
  unfold Lane.staging at sound ⊢
  cases ran with
  | absent task missing silent =>
      -- without a Jetty nothing is queued
      have blank := base.lane_jetty_none id missing
      simp [blank] at sound ⊢
      refine ⟨by simp, sound.readBelow, by simp, by simp, by simp, ?_, by simp, by simp⟩
      intro submission membership
      exact sound.submitted submission (by simp [membership])
  | completeAbsent => simpa using sound
  | processSq producer direct jetty _ existing outcome =>
      have same := base.lane_jetty id existing
      cases outcome <;> simpa [same] using sound
  | resumeSq jetty _ existing outcome =>
      have same := base.lane_jetty id existing
      cases outcome <;> simpa [same] using sound
  | processSqLoop producer jetty _ existing outcome =>
      have same := base.lane_jetty id existing
      cases outcome <;> simpa [same] using sound
  | fillSqCache producer targetProducer jetty _ existing outcome =>
      have same := base.lane_jetty id existing
      cases outcome <;> simpa [same] using sound
  | executeSqHead producer targetProducer jetty _ existing outcome =>
      have same := base.lane_jetty id existing
      cases outcome <;> simpa [same] using sound
  | continueLast raw nextSlot => simpa using sound
  | continueRead raw remaining nextSlot jetty existing more => simpa using sound
  | handleSqWqe raw jetty _ existing outcome =>
      have same := base.lane_jetty id existing
      simp [same] at sound
      cases outcome with
      | failed => simpa [Jetty.fail, Jetty.release] using sound
      | released => simpa [Jetty.release] using sound
      | read =>
          simpa [reserveSq, SqPipeline.reserve] using
            sound.weaken (Nat.le_add_right _ _) (List.Subset.refl _) (Nat.le_refl _)
      | prepared route admitted opcode =>
          have staged := sound.stage
            { request := jetty.requestFor raw (SqWqe.firstSge raw).length, raw := raw }
            (SqWqe.wqebbCount_pos raw) rfl (jetty.requestFor_rebuilt raw _) opcode rfl
          simpa [prepareWrite, reserveSq, SqPipeline.reserve, Jetty.requestFor,
            SqRequest.ofWqe] using staged
      | rejected =>
          simpa [rejectSend, reserveSq, SqPipeline.reserve] using
            sound.weaken (Nat.le_add_right _ _) (List.Subset.refl _) (Nat.le_refl _)
      | inlined => simpa [same] using sound
      | reading => simpa [same] using sound
  | drainPreparedWrites jetty _ existing outcome =>
      have same := base.lane_jetty id existing
      simp [same] at sound
      cases outcome with
      | resumed stalled => simpa [same] using sound.stall stalled
      | failed front rest queue ready broken =>
          rw [queue] at sound
          simpa using sound.drain [] (by simp)
      | submitted front rest queue ready intact =>
          rw [queue] at sound
          have known := sound.rebuilt front (by simp)
          have size := sound.arrived front (by simp) ready intact
          rw [← size] at known
          simpa using sound.drain [⟨front.request, front.raw, front.payload⟩]
            (by simpa using known)
  | submitSqPayload raw payload reserved jetty _ existing outcome =>
      have same := base.lane_jetty id existing
      simp [same] at sound
      cases outcome with
      | released => simpa [Jetty.release] using sound
      | lost =>
          have fewer := sound.weaken (Nat.le_refl _)
            (List.subset_append_right _ (gather Task.submission (base.lane id).tasks))
            (Nat.le_refl _)
          simpa [same] using fewer
      | freshSend =>
          simpa [reserveSq, SqPipeline.reserve] using
            sound.weaken (Nat.le_add_right _ _) (List.Subset.refl _) (Nat.le_refl _)
      | freshWrite =>
          simpa [reserveSq, SqPipeline.reserve] using
            sound.weaken (Nat.le_add_right _ _) (List.Subset.refl _) (Nat.le_refl _)
      | heldSend =>
          simpa [same] using
            sound.weaken (Nat.le_refl _) (List.subset_cons_self _ _) (Nat.le_refl _)
      | heldWrite =>
          simpa [same] using
            sound.weaken (Nat.le_refl _) (List.subset_cons_self _ _) (Nat.le_refl _)
  | releaseSqFetch jetty existing =>
      have same := base.lane_jetty id existing
      simpa [same, Jetty.release] using sound
  | completeSq request status substatus jetty _ existing outcome =>
      have same := base.lane_jetty id existing
      cases outcome <;> simpa [same] using sound
  | retireSq jetty _ existing outcome =>
      have same := base.lane_jetty id existing
      cases outcome with
      | skipped => simpa [same] using sound
      | entered =>
          unfold retireLoop
          split <;> simpa [same] using sound
  | retireSqLoop jetty _ existing outcome =>
      have same := base.lane_jetty id existing
      cases outcome with
      | stopped => simpa [same] using sound
      | published =>
          unfold publishSq
          split <;> simpa [same] using sound
  | retireSqPipelinedLoop jetty _ existing outcome =>
      have same := base.lane_jetty id existing
      cases outcome with
      | stopped => simpa [same] using sound
      | published =>
          unfold publishSq
          split <;> simpa [same] using sound
  | finishKept entry => simpa using sound
  | finishPopped entry jetty existing =>
      have same := base.lane_jetty id existing
      simpa [same, SqPipeline.pop] using sound
  | finishSqPipelined entry ok jetty _ existing outcome =>
      have same := base.lane_jetty id existing
      cases outcome with
      | broken => simpa [same] using sound
      | retired => simpa [same, SqPipeline.retire] using sound

theorem Called.staged {config : Config} {base after : State} {ok : Bool} {bytes : Bytes}
    {id : Nat} {callback : Callback}
    (called : Called config base ok bytes id callback after)
    (sound : (Lane.staging
      { base.lane id with calls := callback :: (base.lane id).calls }).Sound) :
    (after.lane id).staging.Sound := by
  unfold Lane.staging at sound ⊢
  cases called with
  | absent callback missing =>
      have blank := base.lane_jetty_none id missing
      simp [blank] at sound ⊢
      refine ⟨by simp, ?_, by simp, by simp, by simp, sound.submitted, by simp, by simp⟩
      intro read membership
      exact sound.readBelow read (by simp [membership])
  | prefetch start count jetty _ existing outcome =>
      have same := base.lane_jetty id existing
      cases outcome <;> simpa [same, SqPipeline.prefetched] using sound
  | continuation raw remaining nextSlot contiguous jetty _ existing outcome =>
      have same := base.lane_jetty id existing
      cases outcome with
      | failed => simpa [same, Jetty.fail, Jetty.release] using sound
      | arrived => simpa [same] using sound
  | writePayload position expected jetty existing =>
      have same := base.lane_jetty id existing
      simp [same] at sound
      simpa using sound.arrive ok bytes
  | sendPayload raw expected jetty _ existing outcome =>
      have same := base.lane_jetty id existing
      cases outcome with
      | failed => simpa [same, Jetty.fail, Jetty.release] using sound
      | arrived => simpa [same] using sound
  | sendFailed request requestId bad =>
      split
      · simpa [State.lane] using sound
      · simpa using sound
  | writeSent request requestId good opcode => simpa using sound
  | sendDone request requestId good opcode => simpa using sound
  | cqe entry => split <;> simpa using sound

theorem Acts.staged {config : Config} {id : Nat} {state after : State} {event : Event}
    (acts : Acts config id state event after) (sound : (state.lane id).staging.Sound) :
    (after.lane id).staging.Sound := by
  cases acts with
  | task base task _ before own calm ran => exact ran.staged (before ▸ sound)
  | callback index ok bytes callback calls base _ own calm before chosen held called =>
      refine called.staged ?_
      rw [before, State.lane_holding] at sound
      unfold Lane.staging at sound ⊢
      refine sound.perm (gather_perm ?_)
      have := held.filter (Callback.on id)
      rwa [List.filter_cons_of_pos own] at this
  | progressed _ _ pending progress earlier later observed calm held owner request silent lane =>
      rw [lane]
      exact sound
  | finished _ _ pending earlier later status calm held lane =>
      rw [lane]
      unfold Lane.staging at sound ⊢
      simpa using sound
  | doorbell producer calm =>
      unfold Lane.staging at sound ⊢
      simpa using sound
  | direct offset data jetty _ calm existing outcome =>
      have same := state.lane_jetty id existing
      unfold Lane.staging at sound ⊢
      simp only [Lane.pipe, same] at sound
      cases outcome <;> simpa [Jetty.pipe] using sound
  | created context jetty calm missing fresh =>
      rw [State.lane_setJetty]
      unfold Lane.staging at sound ⊢
      simpa [missing, fresh.pipe] using sound

/-- In every run a drained WRITE is submitted with the request that was reserved for it,
and the queue of prepared WRITEs does not stand still. -/
theorem staged_of_reaches {config : Config} {guard : State → Event → State → Prop}
    {state : State} (reached : Reaches (step config) guard (State.initial config) state)
    (id : Nat) : (state.lane id).staging.Sound := by
  refine lane_of_reaches id (fun lane => lane.staging.Sound) reached ?_ ?_
  · rw [State.initial_lane]
    refine ⟨?_, ?_, ?_, ?_, ?_, ?_, ?_, ?_⟩ <;> simp [Lane.staging]
  · intro before event after earlier sound acts _ _
    exact acts.staged sound

end Udma.Sq
