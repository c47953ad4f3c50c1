import Udma.Transition.Run
import Udma.Sq.Outcome

/-!
# Steps as actions of one Jetty

`Ran` and `Called` collect the outcomes of all functions and callbacks.  A step
acts for at most one Jetty and leaves the lane of every other one unchanged, so
an invariant of lanes only has to be checked against the actions of its own Jetty.
-/

namespace Udma.Sq

open Udma.Abi Udma.Arithmetic Udma.Collections Udma.Transition

/-- The `finish` closure of `RetireSq` after a good publication. -/
def SqPipeline.pop (pipe : SqPipeline) : SqPipeline :=
  { pipe with
    completions := pipe.completions.tail
    publishing := false
    ordered := pipe.ordered && !pipe.completions.tail.isEmpty }

/-- The states in which an activation of Jetty `id` can leave `base`, the state
without it. -/
inductive Ran (config : Config) (base : State) (id : Nat) : Task → State → Prop where
  | absent (task : Task) (missing : base.jetty id = none)
      (silent : ∀ request status substatus, task ≠ .completeSq id request status substatus) :
      Ran config base id task base
  | completeAbsent (request : SqRequest) (status substatus : Nat)
      (missing : base.jetty id = none) :
      Ran config base id (.completeSq id request status substatus)
        (base.emit [.completed id request status substatus])
  | processSq (producer : Nat) (direct : Bytes) (jetty : Jetty) (after : State)
      (existing : base.jetty id = some jetty)
      (outcome : ProcessOutcome base id producer direct jetty
        (jetty.context.accept producer direct) after) :
      Ran config base id (.processSq id producer direct) after
  | resumeSq (jetty : Jetty) (after : State)
      (existing : base.jetty id = some jetty)
      (outcome : ProcessOutcome base id jetty.context.targetProducer [] jetty
        (jetty.context.accept jetty.context.targetProducer []) after) :
      Ran config base id (.resumeSq id) after
  | processSqLoop (producer : Nat) (jetty : Jetty) (after : State)
      (existing : base.jetty id = some jetty)
      (outcome : LoopOutcome config base id producer jetty after) :
      Ran config base id (.processSqLoop id producer .check) after
  | fillSqCache (producer targetProducer : Nat) (jetty : Jetty) (after : State)
      (existing : base.jetty id = some jetty)
      (outcome : FillOutcome config base id producer targetProducer jetty after) :
      Ran config base id (.processSqLoop id producer (.fill targetProducer)) after
  | executeSqHead (producer targetProducer : Nat) (jetty : Jetty) (after : State)
      (existing : base.jetty id = some jetty)
      (outcome : HeadOutcome config base id producer targetProducer jetty after) :
      Ran config base id (.processSqLoop id producer (.head targetProducer)) after
  | continueLast (raw : Bytes) (nextSlot : Nat) :
      Ran config base id (.continueSqWqe id raw 0 nextSlot)
        (base.push [.handleSqWqe id raw])
  | continueRead (raw : Bytes) (remaining nextSlot : Nat) (jetty : Jetty)
      (existing : base.jetty id = some jetty) (more : remaining ≠ 0) :
      Ran config base id (.continueSqWqe id raw remaining nextSlot)
        ((base.emit [.dmaRead id jetty.context.token
            (jetty.context.queueIova + nextSlot * wqebbBytes)
            (min remaining (jetty.context.depth - nextSlot) * wqebbBytes)]).call
          (.continuation id raw remaining nextSlot
            (min remaining (jetty.context.depth - nextSlot))))
  | handleSqWqe (raw : Bytes) (jetty : Jetty) (after : State)
      (existing : base.jetty id = some jetty)
      (outcome : HandleOutcome config (base.emit [.executed id jetty.pipe.issue raw]) id raw
        jetty after) :
      Ran config base id (.handleSqWqe id raw) after
  | drainPreparedWrites (jetty : Jetty) (after : State)
      (existing : base.jetty id = some jetty)
      (outcome : DrainOutcome base id jetty after) :
      Ran config base id (.drainPreparedWrites id) after
  | submitSqPayload (raw payload : Bytes) (reserved : Option SqRequest) (jetty : Jetty)
      (after : State) (existing : base.jetty id = some jetty)
      (outcome : SubmitOutcome config base id raw payload jetty reserved after) :
      Ran config base id (.submitSqPayload id raw payload reserved) after
  | releaseSqFetch (jetty : Jetty) (existing : base.jetty id = some jetty) :
      Ran config base id (.releaseSqFetch id)
        ((base.setJetty id jetty.release).push
          [.processSq id jetty.context.targetProducer []])
  | completeSq (request : SqRequest) (status substatus : Nat) (jetty : Jetty)
      (after : State) (existing : base.jetty id = some jetty)
      (outcome : CompleteOutcome (base.emit [.completed id request status substatus]) id
        request status substatus jetty after) :
      Ran config base id (.completeSq id request status substatus) after
  | retireSq (jetty : Jetty) (after : State) (existing : base.jetty id = some jetty)
      (outcome : RetireOutcome config base id jetty after) :
      Ran config base id (.retireSq id) after
  | retireSqLoop (jetty : Jetty) (after : State) (existing : base.jetty id = some jetty)
      (outcome : RetireLoopOutcome base id jetty after) :
      Ran config base id (.retireSqLoop id) after
  | retireSqPipelinedLoop (jetty : Jetty) (after : State)
      (existing : base.jetty id = some jetty)
      (outcome : RetirePipelinedOutcome config base id jetty after) :
      Ran config base id (.retireSqPipelinedLoop id) after
  | finishKept (entry : SqCompletion) :
      Ran config base id (.finishSq id entry false) base
  | finishPopped (entry : SqCompletion) (jetty : Jetty)
      (existing : base.jetty id = some jetty) :
      Ran config base id (.finishSq id entry true)
        (((base.emit ((jetty.pipe.completions.take 1).map fun front =>
              .retired id front.request)).setJetty id
          ⟨{ jetty.context with
              consumer := jetty.context.consumer + entry.wqebbs
              busy := jetty.pipe.pop.busyNow }, some jetty.pipe.pop⟩).push
            [.retireSq id, .processSq id jetty.context.targetProducer []])
  | finishSqPipelined (entry : SqCompletion) (ok : Bool) (jetty : Jetty) (after : State)
      (existing : base.jetty id = some jetty)
      (outcome : FinishPipelinedOutcome base id entry ok jetty after) :
      Ran config base id (.finishSqPipelined id entry ok) after

theorem exec_ran (config : Config) (base : State) (id : Nat) (task : Task)
    (own : task.on id = true) : Ran config base id task (exec config base task) := by
  cases existing : base.jetty id with
  | none =>
      cases task with
      | external => simp at own
      | processSq other producer direct =>
          obtain rfl : other = id := by simpa using own
          simp only [exec, processSq, existing]
          exact .absent _ existing (by simp)
      | resumeSq other =>
          obtain rfl : other = id := by simpa using own
          simp only [exec, resumeSq, existing]
          exact .absent _ existing (by simp)
      | processSqLoop other producer stage =>
          obtain rfl : other = id := by simpa using own
          cases stage <;>
            simp only [exec, processSqLoop, fillSqCache, executeSqHead, existing] <;>
            exact .absent _ existing (by simp)
      | continueSqWqe other raw remaining nextSlot =>
          obtain rfl : other = id := by simpa using own
          by_cases last : remaining = 0
          · subst last
            exact .continueLast raw nextSlot
          · simp only [exec, continueSqWqe, last, ↓reduceIte, existing]
            exact .absent _ existing (by simp)
      | handleSqWqe other raw =>
          obtain rfl : other = id := by simpa using own
          simp only [exec, handleSqWqe, existing]
          exact .absent _ existing (by simp)
      | drainPreparedWrites other =>
          obtain rfl : other = id := by simpa using own
          simp only [exec, drainPreparedWrites, existing]
          exact .absent _ existing (by simp)
      | submitSqPayload other raw payload reserved =>
          obtain rfl : other = id := by simpa using own
          simp only [exec, submitSqPayload, existing]
          exact .absent _ existing (by simp)
      | releaseSqFetch other =>
          obtain rfl : other = id := by simpa using own
          simp only [exec, releaseSqFetch, existing]
          exact .absent _ existing (by simp)
      | completeSq other request status substatus =>
          obtain rfl : other = id := by simpa using own
          simp only [exec, completeSq, existing]
          exact .completeAbsent request status substatus existing
      | retireSq other =>
          obtain rfl : other = id := by simpa using own
          simp only [exec, retireSq, existing]
          exact .absent _ existing (by simp)
      | retireSqLoop other =>
          obtain rfl : other = id := by simpa using own
          simp only [exec, retireSqLoop, existing]
          exact .absent _ existing (by simp)
      | retireSqPipelinedLoop other =>
          obtain rfl : other = id := by simpa using own
          simp only [exec, retireSqPipelinedLoop, existing]
          exact .absent _ existing (by simp)
      | finishSq other entry ok =>
          obtain rfl : other = id := by simpa using own
          simp only [exec, finishSq, existing]
          exact .absent _ existing (by simp)
      | finishSqPipelined other entry ok =>
          obtain rfl : other = id := by simpa using own
          simp only [exec, finishSqPipelined, existing]
          exact .absent _ existing (by simp)
  | some jetty =>
      cases task with
      | external => simp at own
      | processSq other producer direct =>
          obtain rfl : other = id := by simpa using own
          exact .processSq producer direct jetty _ existing
            (processSq_outcome existing producer direct)
      | resumeSq other =>
          obtain rfl : other = id := by simpa using own
          simp only [exec, resumeSq, existing]
          exact .resumeSq jetty _ existing (processSq_outcome existing _ [])
      | processSqLoop other producer stage =>
          obtain rfl : other = id := by simpa using own
          cases stage with
          | check =>
              exact .processSqLoop producer jetty _ existing
                (processSqLoop_outcome config existing producer)
          | fill targetProducer =>
              exact .fillSqCache producer targetProducer jetty _ existing
                (fillSqCache_outcome config existing producer targetProducer)
          | head targetProducer =>
              exact .executeSqHead producer targetProducer jetty _ existing
                (executeSqHead_outcome config existing producer targetProducer)
      | continueSqWqe other raw remaining nextSlot =>
          obtain rfl : other = id := by simpa using own
          by_cases last : remaining = 0
          · subst last
            exact .continueLast raw nextSlot
          · simp only [exec, continueSqWqe, last, ↓reduceIte, existing]
            exact .continueRead raw remaining nextSlot jetty existing last
      | handleSqWqe other raw =>
          obtain rfl : other = id := by simpa using own
          exact .handleSqWqe raw jetty _ existing (handleSqWqe_outcome config existing raw)
      | drainPreparedWrites other =>
          obtain rfl : other = id := by simpa using own
          exact .drainPreparedWrites jetty _ existing (drainPreparedWrites_outcome existing)
      | submitSqPayload other raw payload reserved =>
          obtain rfl : other = id := by simpa using own
          exact .submitSqPayload raw payload reserved jetty _ existing
            (submitSqPayload_outcome config existing raw payload reserved)
      | releaseSqFetch other =>
          obtain rfl : other = id := by simpa using own
          simp only [exec, releaseSqFetch, existing]
          exact .releaseSqFetch jetty existing
      | completeSq other request status substatus =>
          obtain rfl : other = id := by simpa using own
          exact .completeSq request status substatus jetty _ existing
            (completeSq_outcome existing request status substatus)
      | retireSq other =>
          obtain rfl : other = id := by simpa using own
          exact .retireSq jetty _ existing (retireSq_outcome config existing)
      | retireSqLoop other =>
          obtain rfl : other = id := by simpa using own
          exact .retireSqLoop jetty _ existing (retireSqLoop_outcome existing)
      | retireSqPipelinedLoop other =>
          obtain rfl : other = id := by simpa using own
          exact .retireSqPipelinedLoop jetty _ existing
            (retireSqPipelinedLoop_outcome config existing)
      | finishSq other entry ok =>
          obtain rfl : other = id := by simpa using own
          cases ok with
          | false =>
              simp only [exec, finishSq, existing]
              exact .finishKept entry
          | true =>
              simp only [exec, finishSq, existing]
              exact .finishPopped entry jetty existing
      | finishSqPipelined other entry ok =>
          obtain rfl : other = id := by simpa using own
          exact .finishSqPipelined entry ok jetty _ existing
            (finishSqPipelined_outcome existing entry ok)

/-- The states in which a callback of Jetty `id` can leave `base`, the state
without it. -/
inductive Called (config : Config) (base : State) (ok : Bool) (bytes : Bytes) (id : Nat) :
    Callback → State → Prop where
  | absent (callback : Callback) (missing : base.jetty id = none) :
      Called config base ok bytes id callback base
  | prefetch (start count : Nat) (jetty : Jetty) (after : State)
      (existing : base.jetty id = some jetty)
      (outcome : PrefetchOutcome base id start count ok bytes jetty after) :
      Called config base ok bytes id (.prefetch id start count) after
  | continuation (raw : Bytes) (remaining nextSlot contiguous : Nat) (jetty : Jetty)
      (after : State) (existing : base.jetty id = some jetty)
      (outcome : ContinueOutcome base id raw remaining nextSlot contiguous ok bytes jetty
        after) :
      Called config base ok bytes id (.continuation id raw remaining nextSlot contiguous) after
  | writePayload (position expected : Nat) (jetty : Jetty)
      (existing : base.jetty id = some jetty) :
      Called config base ok bytes id (.writePayload id position expected)
        ((base.setJetty id ⟨jetty.context, some { jetty.pipe with
          preparedWrites := jetty.pipe.preparedWrites.map fun prepared =>
            if prepared.request.position = position then prepared.arrive expected ok bytes
            else prepared }⟩).push [.drainPreparedWrites id])
  | sendPayload (raw : Bytes) (expected : Nat) (jetty : Jetty) (after : State)
      (existing : base.jetty id = some jetty)
      (outcome : SendPayloadOutcome base id raw bytes jetty after) :
      Called config base ok bytes id (.sendPayload id raw expected) after
  | sendFailed (request : SqRequest) (requestId : Nat) (bad : ok = false) :
      Called config base ok bytes id (.payloadSent id request requestId)
        ((if requestId ≠ 0 then base.erasePending requestId else base).push
          [.completeSq id request 1 0])
  | writeSent (request : SqRequest) (requestId : Nat) (good : ok = true)
      (opcode : request.opcode = 3) :
      Called config base ok bytes id (.payloadSent id request requestId) base
  | sendDone (request : SqRequest) (requestId : Nat) (good : ok = true)
      (opcode : request.opcode ≠ 3) :
      Called config base ok bytes id (.payloadSent id request requestId)
        (base.push [.completeSq id request 0 0])
  | cqe (entry : SqCompletion) :
      Called config base ok bytes id (.cqe id entry)
        ((base.emit [.published id entry.request.position ok]).push
          [if config.pipelinedCompletionDma then .finishSqPipelined id entry ok
           else .finishSq id entry ok])

theorem runCallback_called (config : Config) (base : State) (ok : Bool) (bytes : Bytes)
    (id : Nat) (callback : Callback) (own : callback.on id = true) :
    Called config base ok bytes id callback (runCallback config base ok bytes callback) := by
  cases callback with
  | prefetch other start count =>
      obtain rfl : other = id := by simpa using own
      cases existing : base.jetty other with
      | none =>
          simp only [runCallback, prefetched, existing]
          exact .absent _ existing
      | some jetty =>
          exact .prefetch start count jetty _ existing
            (prefetched_outcome existing start count ok bytes)
  | continuation other raw remaining nextSlot contiguous =>
      obtain rfl : other = id := by simpa using own
      cases existing : base.jetty other with
      | none =>
          simp only [runCallback, continued, existing]
          exact .absent _ existing
      | some jetty =>
          exact .continuation raw remaining nextSlot contiguous jetty _ existing
            (continued_outcome existing raw remaining nextSlot contiguous ok bytes)
  | writePayload other position expected =>
      obtain rfl : other = id := by simpa using own
      cases existing : base.jetty other with
      | none =>
          simp only [runCallback, writePayloadRead, existing]
          exact .absent _ existing
      | some jetty =>
          simp only [runCallback, writePayloadRead, existing]
          exact .writePayload position expected jetty existing
  | sendPayload other raw expected =>
      obtain rfl : other = id := by simpa using own
      cases existing : base.jetty other with
      | none =>
          simp only [runCallback, sendPayloadRead, existing]
          exact .absent _ existing
      | some jetty =>
          exact .sendPayload raw expected jetty _ existing
            (sendPayloadRead_outcome existing raw expected ok bytes)
  | readSent requestId => simp at own
  | payloadSent other request requestId =>
      obtain rfl : other = id := by simpa using own
      cases ok with
      | false => exact .sendFailed request requestId rfl
      | true =>
          simp only [runCallback, payloadSent, Bool.not_true, Bool.false_eq_true, ↓reduceIte]
          split
          next write => exact .writeSent request requestId rfl write
          next send => exact .sendDone request requestId rfl send
  | response requestId taSsn transferLength => simp at own
  | cqe other entry =>
      obtain rfl : other = id := by simpa using own
      exact .cqe entry

/-! ## Other lanes -/

theorem Ran.lane_other {config : Config} {base after : State} {who other : Nat} {task : Task}
    (ran : Ran config base who task after) (different : other ≠ who) :
    after.lane other = base.lane other := by
  have apart : ¬ who = other := fun same => different same.symm
  cases ran with
  | absent => rfl
  | finishKept => rfl
  | completeAbsent | continueLast | continueRead | releaseSqFetch =>
      simp [different, apart]
  | finishPopped => simp [different, apart, -List.map_take]
  | processSq producer direct jetty _ existing outcome =>
      cases outcome <;> simp [different, apart]
  | resumeSq jetty _ existing outcome =>
      cases outcome <;> simp [different, apart]
  | processSqLoop producer jetty _ existing outcome =>
      cases outcome <;> simp [different, apart]
  | fillSqCache producer targetProducer jetty _ existing outcome =>
      cases outcome <;> simp [different, apart]
  | executeSqHead producer targetProducer jetty _ existing outcome =>
      cases outcome <;> simp [different, apart]
  | handleSqWqe raw jetty _ existing outcome =>
      cases outcome <;>
        simp_all [reserveSq, prepareWrite, rejectSend]
  | drainPreparedWrites jetty _ existing outcome =>
      cases outcome <;> simp [different, apart]
  | submitSqPayload raw payload reserved jetty _ existing outcome =>
      cases outcome <;> simp_all [reserveSq]
  | completeSq request status substatus jetty _ existing outcome =>
      cases outcome <;> simp [different, apart]
  | retireSq jetty _ existing outcome =>
      cases outcome with
      | skipped => rfl
      | entered =>
          unfold retireLoop
          split <;> simp [different, apart]
  | retireSqLoop jetty _ existing outcome =>
      cases outcome with
      | stopped => simp [different]
      | published =>
          unfold publishSq
          split <;> simp [different, apart]
  | retireSqPipelinedLoop jetty _ existing outcome =>
      cases outcome with
      | stopped => simp [different]
      | published =>
          unfold publishSq
          split <;> simp [different, apart]
  | finishSqPipelined entry ok jetty _ existing outcome =>
      cases outcome <;> simp [different, apart]

end Udma.Sq
