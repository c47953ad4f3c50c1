import Udma.Sq.Machine

/-!
# The lane of one Jetty

Every function of the engine works for one Jetty.  A lane is what the state
holds for that Jetty: its context and pipeline, its activations and callbacks,
its outstanding RMA requests and its observations.  Code that runs for another
Jetty leaves the lane alone, so per-Jetty invariants are invariants of lanes.
-/

namespace Udma.Sq

open Udma.Abi Udma.Arithmetic Udma.Collections

def Task.on (id : Nat) : Task → Bool
  | .external => false
  | .processSq other _ _ => other == id
  | .resumeSq other => other == id
  | .processSqLoop other _ _ => other == id
  | .continueSqWqe other _ _ _ => other == id
  | .handleSqWqe other _ => other == id
  | .drainPreparedWrites other => other == id
  | .submitSqPayload other _ _ _ => other == id
  | .releaseSqFetch other => other == id
  | .completeSq other _ _ _ => other == id
  | .retireSq other => other == id
  | .retireSqLoop other => other == id
  | .retireSqPipelinedLoop other => other == id
  | .finishSq other _ _ => other == id
  | .finishSqPipelined other _ _ => other == id

/-- The callbacks of a READ name a request, not a Jetty. -/
def Callback.on (id : Nat) : Callback → Bool
  | .prefetch other _ _ => other == id
  | .continuation other _ _ _ _ => other == id
  | .writePayload other _ _ => other == id
  | .sendPayload other _ _ => other == id
  | .readSent _ => false
  | .payloadSent other _ _ => other == id
  | .response _ _ _ => false
  | .cqe other _ => other == id

def Observation.on (id : Nat) : Observation → Bool
  | .direct other _ _ => other == id
  | .executed other _ _ => other == id
  | .reserved other _ => other == id
  | .sent other _ _ => other == id
  | .completed other _ _ _ => other == id
  | .submitted other _ _ => other == id
  | .published other _ _ => other == id
  | .retired other _ => other == id
  | .dmaRead other _ _ _ => other == id
  | .dmaWrite other _ _ _ => other == id

attribute [simp] Task.on Callback.on Observation.on

/-- What stands for a Jetty that does not exist. -/
def Jetty.blank : Jetty :=
  { context :=
      { queueIova := 0, sqShift := 0, completionQueue := 0, token := 0, payloadToken := 0,
        eidIndex := 0, userQueue := 0, isJetty := false } }

structure Lane where
  jetty : Jetty
  tasks : List Task
  calls : List Callback
  pending : List PendingRma
  trace : List Observation

namespace Lane

def context (lane : Lane) : QueueContext := lane.jetty.context
def pipe (lane : Lane) : SqPipeline := lane.jetty.pipe

end Lane

def State.lane (state : State) (id : Nat) : Lane :=
  { jetty := (state.jetty id).getD .blank
    tasks := state.stack.filter (Task.on id)
    calls := state.outstanding.filter (Callback.on id)
    pending := state.pendingRma.filter fun pending => pending.jettyId == id
    trace := state.trace.filter (Observation.on id) }

/-! ## How the primitive updates change a lane -/

@[simp] theorem Jetty.pipe_mk (context : QueueContext) (pipe : SqPipeline) :
    Jetty.pipe ⟨context, some pipe⟩ = pipe := rfl

@[simp] theorem Jetty.blank_pipe : Jetty.blank.pipe = {} := rfl

namespace State

variable (state : State) (id other : Nat)

theorem lane_jetty {jetty : Jetty} (existing : state.jetty id = some jetty) :
    (state.lane id).jetty = jetty := by
  simp [lane, existing]

theorem lane_jetty_none (missing : state.jetty id = none) :
    (state.lane id).jetty = .blank := by
  simp [lane, missing]

@[simp] theorem lane_setJetty (jetty : Jetty) :
    (state.setJetty id jetty).lane id = { state.lane id with jetty := jetty } := by
  simp [lane, setJetty]

@[simp] theorem lane_setJetty_other (jetty : Jetty) (different : other ≠ id) :
    (state.setJetty id jetty).lane other = state.lane other := by
  simp [lane, setJetty, different]

@[simp] theorem lane_push (tasks : List Task) :
    (state.push tasks).lane id =
      { state.lane id with
        tasks := tasks.filter (Task.on id) ++ (state.lane id).tasks } := by
  simp [lane, push]

@[simp] theorem lane_call (callback : Callback) :
    (state.call callback).lane id =
      { state.lane id with
        calls := (state.lane id).calls ++ [callback].filter (Callback.on id) } := by
  simp [lane, call]

@[simp] theorem lane_emit (observations : List Observation) :
    (state.emit observations).lane id =
      { state.lane id with
        trace := (state.lane id).trace ++ observations.filter (Observation.on id) } := by
  simp [lane, emit]

@[simp] theorem lane_addPending (pending : PendingRma) :
    (state.addPending pending).lane id =
      { state.lane id with
        pending := (state.lane id).pending ++
          [pending].filter fun candidate => candidate.jettyId == id } := by
  simp [lane, addPending]

@[simp] theorem lane_send (who position : Nat) (frame : Frame) (callback : Callback) :
    (state.send who position frame callback).lane id =
      { state.lane id with
        trace := (state.lane id).trace ++
          [Observation.sent who position frame].filter (Observation.on id)
        calls := (state.lane id).calls ++ [callback].filter (Callback.on id) } := by
  simp [lane, send, call, emit]

@[simp] theorem filter_retired (entries : List SqCompletion) :
    (entries.map fun front => Observation.retired id front.request).filter
        (Observation.on id) =
      entries.map fun front => Observation.retired id front.request := by
  simp [List.filter_eq_self]

@[simp] theorem filter_retired_other (entries : List SqCompletion) (different : id ≠ other) :
    (entries.map fun front => Observation.retired id front.request).filter
        (Observation.on other) = [] := by
  simp [List.filter_eq_nil_iff, different]

/-- Removing the first task of the stack and putting it back. -/
theorem push_pop {task : Task} {rest : List Task} (top : state.stack = task :: rest) :
    { state with stack := rest }.push [task] = state := by
  cases state
  simp_all [push]

end State

end Udma.Sq
