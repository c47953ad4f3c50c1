import Mathlib
import Udma.Transition.Run

/-!
# The lifecycle fence

Every host asks its device for a fence, the devices tell the fabric that they are
prepared, and once all of them are, `UbNetFabric::Run` broadcasts the commit.  A
broadcast in which a ring is full is repeated from the start, for every endpoint.

Only the lifecycle messages of the rings are kept.  That traffic has drained, on
either side, is a moment the environment chooses.
-/

namespace Udma.Fence

open Udma.Transition

structure Lifecycle where
  generation : Nat
  enabled : Bool
  deriving DecidableEq, Repr

/-- The fences the hosts ask for, in order: generations advance, and each target differs
from what is active. -/
structure Plan where
  fence : Nat → Lifecycle
  advancing : ∀ index, (fence index).generation < (fence (index + 1)).generation
  alternating : ∀ index, (fence index).enabled = decide (index % 2 = 0)

/-- What is active after a number of fences. -/
def activeAfter (fences : Nat) : Bool := decide (fences % 2 = 1)

/-- What a process throws. -/
inductive Fault where
  | hostGeneration
  | duplicatePrepare
  | commitRejected
  | deviceTarget
  | fabricGeneration
  | fabricTarget
  deriving DecidableEq, Repr

/-! ## The device -/

/-- The fence state of `HostPort`, `NetworkPort` and the main loop. -/
structure Device where
  /-- How many fences the host has asked for. -/
  requested : Nat := 0
  prepareSeen : Bool := false
  generationSeen : Bool := false
  generation : Nat := 0
  targetEnabled : Bool := false
  prepareForwarded : Bool := false
  lifecycleActive : Bool := false
  prepareSent : Bool := false
  prepareGeneration : Nat := 0
  prepareEnabled : Bool := false
  commitSeen : Bool := false
  commitGeneration : Nat := 0
  commitEnabled : Bool := false
  deriving DecidableEq, Repr

namespace Device

/-- `HostPort::Poll` on a PREPARE. -/
def request (device : Device) (message : Lifecycle) : Except Fault Device :=
  if device.generationSeen ∧ message.generation ≤ device.generation then .error .hostGeneration
  else .ok { device with
    requested := device.requested + 1
    prepareSeen := true
    generationSeen := true
    generation := message.generation
    targetEnabled := message.enabled }

/-- The main loop forwards the PREPARE, if the ring has room. -/
def sendPrepare (device : Device) (free : Bool) : Except Fault (Device × List Lifecycle) :=
  if device.prepareSeen ∧ ¬ device.prepareForwarded then
    if device.prepareSent then .error .duplicatePrepare
    else if free then
      .ok ({ device with
        prepareForwarded := true
        prepareSent := true
        prepareGeneration := device.generation
        prepareEnabled := device.targetEnabled }, [⟨device.generation, device.targetEnabled⟩])
    else .ok (device, [])
  else .ok (device, [])

/-- `NetworkPort::Poll` on a COMMIT. -/
def pollCommit (device : Device) (message : Lifecycle) : Except Fault Device :=
  if ¬ device.prepareSent ∨ device.commitSeen ∨
      message.generation ≠ device.prepareGeneration ∨
      message.enabled ≠ device.prepareEnabled then .error .commitRejected
  else .ok { device with
    commitSeen := true
    commitGeneration := message.generation
    commitEnabled := message.enabled }

/-- The main loop finishes the fence, if the host's ring has room for the COMMIT. -/
def finishFence (device : Device) (free : Bool) : Except Fault Device :=
  if device.prepareForwarded ∧ device.commitSeen then
    if device.commitGeneration ≠ device.generation ∨
        device.commitEnabled ≠ device.targetEnabled ∨
        device.targetEnabled = device.lifecycleActive then .error .deviceTarget
    else if free then
      .ok { device with
        lifecycleActive := device.targetEnabled
        prepareSeen := false
        commitSeen := false
        prepareSent := false
        prepareForwarded := false }
    else .ok device
  else .ok device

end Device

/-! ## The fabric -/

structure Endpoint where
  lifecyclePrepare : Bool := false
  lifecycleGeneration : Nat := 0
  lifecycleEnabled : Bool := false
  deriving DecidableEq, Repr

/-- `PollOne` on a PREPARE. -/
def Endpoint.prepare (message : Lifecycle) : Endpoint where
  lifecyclePrepare := true
  lifecycleGeneration := message.generation
  lifecycleEnabled := message.enabled

/-- A device, its endpoint in the fabric and the rings between them. -/
structure Node where
  device : Device := {}
  endpoint : Endpoint := {}
  toFabric : List Lifecycle := []
  toDevice : List Lifecycle := []
  /-- History: the PREPAREs the fabric has taken from this endpoint. -/
  prepares : List Lifecycle := []
  /-- History: the COMMITs the fabric has sent to this endpoint. -/
  commits : List Lifecycle := []
  deriving DecidableEq, Repr

/-- `SendLifecycleCommit`. -/
def Node.sendLifecycleCommit (node : Node) (free : Bool) (message : Lifecycle) : Node :=
  if free then
    { node with toDevice := node.toDevice ++ [message], commits := node.commits ++ [message] }
  else node

/-- One or more endpoints. -/
structure State (others : Nat) where
  node : Fin (others + 1) → Node := fun _ => {}
  lifecycleActive : Bool := false
  /-- History: the broadcasts that reached every endpoint. -/
  fences : Nat := 0
  fault : Option Fault := none

inductive Event (others : Nat) where
  /-- The host of an endpoint asks for its next fence, once the last one is committed. -/
  | request (which : Fin (others + 1))
  | sendPrepare (which : Fin (others + 1)) (free : Bool)
  | pollPrepare (which : Fin (others + 1))
  /-- The fence of `Run`, with the rings that have room. -/
  | broadcast (free : Fin (others + 1) → Bool)
  | pollCommit (which : Fin (others + 1))
  | finishFence (which : Fin (others + 1)) (free : Bool)

namespace State

variable {others : Nat}

def setNode (state : State others) (which : Fin (others + 1)) (node : Node) : State others :=
  { state with node := Function.update state.node which node }

def fail (state : State others) (fault : Fault) : State others :=
  { state with fault := some fault }

def setDevice (state : State others) (which : Fin (others + 1)) :
    Except Fault Device → State others
  | .error fault => state.fail fault
  | .ok device => state.setNode which { state.node which with device := device }

/-- All endpoints have prepared. -/
def ready (state : State others) : Bool :=
  decide (∀ which, (state.node which).endpoint.lifecyclePrepare = true)

/-- The fence of `Run`, when all endpoints have prepared. -/
def broadcast (state : State others) (free : Fin (others + 1) → Bool) : State others :=
  let front := (state.node 0).endpoint
  let message : Lifecycle := ⟨front.lifecycleGeneration, front.lifecycleEnabled⟩
  if ∃ which, (state.node which).endpoint.lifecycleGeneration ≠ message.generation then
    state.fail .fabricGeneration
  else if (∃ which, (state.node which).endpoint.lifecycleEnabled ≠ message.enabled) ∨
      message.enabled = state.lifecycleActive then state.fail .fabricTarget
  else
    let sent which := (state.node which).sendLifecycleCommit (free which) message
    if ∀ which, free which = true then
      { state with
        node := fun which => { sent which with
          endpoint := { (sent which).endpoint with lifecyclePrepare := false } }
        lifecycleActive := message.enabled
        fences := state.fences + 1 }
    else { state with node := sent }

end State

/-- A process that has thrown takes no step. -/
def step {others : Nat} (plan : Plan) (state : State others) (event : Event others) :
    Option (State others) :=
  if state.fault.isSome then none
  else
    match event with
    | .request which =>
        let device := (state.node which).device
        if device.prepareSeen then none
        else some (state.setDevice which (device.request (plan.fence device.requested)))
    | .sendPrepare which free =>
        match (state.node which).device.sendPrepare free with
        | .error fault => some (state.fail fault)
        | .ok (device, messages) =>
            some (state.setNode which { state.node which with
              device := device
              toFabric := (state.node which).toFabric ++ messages })
    | .pollPrepare which =>
        match (state.node which).toFabric with
        | [] => none
        | message :: rest =>
            some (state.setNode which { state.node which with
              endpoint := .prepare message
              toFabric := rest
              prepares := (state.node which).prepares ++ [message] })
    | .broadcast free => if state.ready then some (state.broadcast free) else none
    | .pollCommit which =>
        -- `PollNetworkBatch` leaves what is behind a COMMIT on the ring.
        if (state.node which).device.commitSeen then none
        else
          match (state.node which).toDevice with
          | [] => none
          | message :: rest =>
              some ((state.setNode which { state.node which with toDevice := rest }).setDevice
                which ((state.node which).device.pollCommit message))
    | .finishFence which free =>
        some (state.setDevice which ((state.node which).device.finishFence free))

/-! ## Stages of an endpoint -/

/-- The first fences of the plan. -/
def Plan.first (plan : Plan) (count : Nat) : List Lifecycle := (List.range count).map plan.fence

theorem Plan.first_succ (plan : Plan) (count : Nat) :
    plan.first (count + 1) = plan.first count ++ [plan.fence count] := by
  simp [first, List.range_succ]

theorem Plan.target (plan : Plan) (index : Nat) :
    (plan.fence index).enabled ≠ activeAfter index ∧
      (plan.fence index).enabled = activeAfter (index + 1) := by
  rw [plan.alternating]
  unfold activeAfter
  constructor
  · rw [ne_eq, decide_eq_decide]
    omega
  · rw [decide_eq_decide]
    omega

/-- Between fences. -/
structure Device.Idle (plan : Plan) (fences : Nat) (device : Device) : Prop where
  requested : device.requested = fences
  prepareSeen : device.prepareSeen = false
  older : device.generationSeen = true → device.generation < (plan.fence fences).generation
  prepareForwarded : device.prepareForwarded = false
  prepareSent : device.prepareSent = false
  commitSeen : device.commitSeen = false
  active : device.lifecycleActive = activeAfter fences

/-- The host has asked for the fence. -/
structure Device.Asked (plan : Plan) (index : Nat) (device : Device) : Prop where
  requested : device.requested = index + 1
  prepareSeen : device.prepareSeen = true
  generation : device.generation = (plan.fence index).generation
  target : device.targetEnabled = (plan.fence index).enabled
  active : device.lifecycleActive = activeAfter index

/-- The device has told the fabric. -/
structure Device.Prepared (plan : Plan) (index : Nat) (device : Device) : Prop
    extends device.Asked plan index where
  prepareForwarded : device.prepareForwarded = true
  prepareSent : device.prepareSent = true
  prepareGeneration : device.prepareGeneration = (plan.fence index).generation
  prepareEnabled : device.prepareEnabled = (plan.fence index).enabled

/-- What is between a device and the fabric. -/
structure Node.Between (node : Node) (up down : List Lifecycle) (prepared : Bool)
    (prepares : List Lifecycle) : Prop where
  up : node.toFabric = up
  down : node.toDevice = down
  prepared : node.endpoint.lifecyclePrepare = prepared
  prepares : node.prepares = prepares

/-- Where an endpoint stands when a number of fences has been broadcast. -/
inductive Node.Stage (plan : Plan) (fences : Nat) (node : Node) : Prop where
  | idle (device : node.device.Idle plan fences)
      (between : node.Between [] [] false (plan.first fences))
  | asked (device : node.device.Asked plan fences)
      (prepareForwarded : node.device.prepareForwarded = false)
      (prepareSent : node.device.prepareSent = false)
      (commitSeen : node.device.commitSeen = false)
      (between : node.Between [] [] false (plan.first fences))
  | forwarded (device : node.device.Prepared plan fences)
      (commitSeen : node.device.commitSeen = false)
      (between : node.Between [plan.fence fences] [] false (plan.first fences))
  | prepared (device : node.device.Prepared plan fences)
      (commitSeen : node.device.commitSeen = false)
      (between : node.Between [] [] true (plan.first (fences + 1)))
      (endpoint : node.endpoint = .prepare (plan.fence fences))
  | committed (index : Nat) (last : fences = index + 1)
      (device : node.device.Prepared plan index)
      (commitSeen : node.device.commitSeen = false)
      (between : node.Between [] [plan.fence index] false (plan.first fences))
  | seen (index : Nat) (last : fences = index + 1)
      (device : node.device.Prepared plan index)
      (commitSeen : node.device.commitSeen = true)
      (commitGeneration : node.device.commitGeneration = (plan.fence index).generation)
      (commitEnabled : node.device.commitEnabled = (plan.fence index).enabled)
      (between : node.Between [] [] false (plan.first fences))

structure State.Sound {others : Nat} (plan : Plan) (state : State others) : Prop where
  unbroken : state.fault = none
  active : state.lifecycleActive = activeAfter state.fences
  stage : ∀ which, (state.node which).Stage plan state.fences
  commits : ∀ which, (state.node which).commits = plan.first state.fences

namespace State.Sound

variable {others : Nat} {plan : Plan} {state : State others}

theorem setNode (sound : state.Sound plan) {which : Fin (others + 1)} {node : Node}
    (stage : node.Stage plan state.fences)
    (commits : node.commits = (state.node which).commits) :
    (state.setNode which node).Sound plan where
  unbroken := sound.unbroken
  active := sound.active
  stage other := by
    by_cases same : other = which
    · subst same
      simpa [State.setNode] using stage
    · simpa [State.setNode, same] using sound.stage other
  commits other := by
    by_cases same : other = which
    · subst same
      simpa [State.setNode] using commits.trans (sound.commits other)
    · simpa [State.setNode, same] using sound.commits other

theorem request (sound : state.Sound plan) {which : Fin (others + 1)}
    (free : (state.node which).device.prepareSeen = false) :
    (state.setDevice which ((state.node which).device.request
      (plan.fence (state.node which).device.requested))).Sound plan := by
  cases sound.stage which with
  | idle device between =>
      have advances : ¬ ((state.node which).device.generationSeen = true ∧
          (plan.fence state.fences).generation ≤ (state.node which).device.generation) := by
        rintro ⟨seen, late⟩
        have := device.older seen
        omega
      rw [device.requested, Device.request, if_neg advances]
      refine sound.setNode (.asked ?_ device.prepareForwarded device.prepareSent
        device.commitSeen ⟨between.up, between.down, between.prepared, between.prepares⟩) rfl
      exact ⟨by simp [device.requested], rfl, rfl, rfl, device.active⟩
  | asked device => simp [device.prepareSeen] at free
  | forwarded device => simp [device.prepareSeen] at free
  | prepared device => simp [device.prepareSeen] at free
  | committed index last device => simp [device.prepareSeen] at free
  | seen index last device => simp [device.prepareSeen] at free

/-- Every stage but one leaves nothing to forward. -/
theorem sendPrepare (sound : state.Sound plan) (which : Fin (others + 1)) (free : Bool) :
    ∃ device messages, (state.node which).device.sendPrepare free = .ok (device, messages) ∧
      (state.setNode which { state.node which with
        device := device
        toFabric := (state.node which).toFabric ++ messages }).Sound plan := by
  have still : ∀ {device : Device}, (device.prepareSeen = false ∨ device.prepareForwarded = true) →
      device.sendPrepare free = .ok (device, []) := by
    intro device nothing
    unfold Device.sendPrepare
    rw [if_neg]
    rcases nothing with unseen | done
    · simp [unseen]
    · simp [done]
  have unchanged : ∀ nothing : ((state.node which).device.prepareSeen = false ∨
      (state.node which).device.prepareForwarded = true),
      ∃ device messages, (state.node which).device.sendPrepare free = .ok (device, messages) ∧
        (state.setNode which { state.node which with
          device := device
          toFabric := (state.node which).toFabric ++ messages }).Sound plan := by
    intro nothing
    refine ⟨_, _, still nothing, ?_⟩
    rw [List.append_nil]
    exact sound.setNode (sound.stage which) rfl
  cases sound.stage which with
  | idle device => exact unchanged (.inl device.prepareSeen)
  | asked device prepareForwarded prepareSent commitSeen between =>
      unfold Device.sendPrepare
      rw [if_pos (by simp [device.prepareSeen, prepareForwarded]), prepareSent]
      simp only [Bool.false_eq_true, if_false]
      cases free with
      | false =>
          refine ⟨_, _, rfl, ?_⟩
          rw [List.append_nil]
          exact sound.setNode (sound.stage which) rfl
      | true =>
          refine ⟨_, _, rfl, sound.setNode (.forwarded ?_ commitSeen ?_) rfl⟩
          · exact ⟨⟨device.requested, device.prepareSeen, device.generation, device.target,
              device.active⟩, rfl, rfl, device.generation, device.target⟩
          · refine ⟨?_, between.down, between.prepared, between.prepares⟩
            simp [between.up, device.generation, device.target]
  | forwarded device => exact unchanged (.inr device.prepareForwarded)
  | prepared device => exact unchanged (.inr device.prepareForwarded)
  | committed index last device => exact unchanged (.inr device.prepareForwarded)
  | seen index last device => exact unchanged (.inr device.prepareForwarded)

theorem pollPrepare (sound : state.Sound plan) {which : Fin (others + 1)} {message : Lifecycle}
    {rest : List Lifecycle} (waiting : (state.node which).toFabric = message :: rest) :
    (state.setNode which { state.node which with
      endpoint := .prepare message
      toFabric := rest
      prepares := (state.node which).prepares ++ [message] }).Sound plan := by
  have empty : (state.node which).toFabric ≠ [] := by simp [waiting]
  cases sound.stage which with
  | idle device between => exact absurd between.up empty
  | asked device prepareForwarded prepareSent commitSeen between => exact absurd between.up empty
  | forwarded device commitSeen between =>
      obtain ⟨rfl, rfl⟩ := List.cons.inj (waiting.symm.trans between.up)
      refine sound.setNode (.prepared device commitSeen ⟨rfl, between.down, rfl, ?_⟩ rfl) rfl
      rw [plan.first_succ, ← between.prepares]
  | prepared device commitSeen between => exact absurd between.up empty
  | committed index last device commitSeen between => exact absurd between.up empty
  | seen index last device commitSeen generation enabled between => exact absurd between.up empty

theorem pollCommit (sound : state.Sound plan) {which : Fin (others + 1)} {message : Lifecycle}
    {rest : List Lifecycle} (waiting : (state.node which).toDevice = message :: rest) :
    ((state.setNode which { state.node which with toDevice := rest }).setDevice which
      ((state.node which).device.pollCommit message)).Sound plan := by
  have empty : (state.node which).toDevice ≠ [] := by simp [waiting]
  cases sound.stage which with
  | idle device between => exact absurd between.down empty
  | asked device prepareForwarded prepareSent commitSeen between => exact absurd between.down empty
  | forwarded device commitSeen between => exact absurd between.down empty
  | prepared device commitSeen between => exact absurd between.down empty
  | committed index last device commitSeen between =>
      obtain ⟨rfl, rfl⟩ := List.cons.inj (waiting.symm.trans between.down)
      have solicited : ¬ (¬ (state.node which).device.prepareSent = true ∨
          (state.node which).device.commitSeen = true ∨
          (plan.fence index).generation ≠ (state.node which).device.prepareGeneration ∨
          (plan.fence index).enabled ≠ (state.node which).device.prepareEnabled) := by
        simp [device.prepareSent, commitSeen, device.prepareGeneration, device.prepareEnabled]
      rw [Device.pollCommit, if_neg solicited]
      have taken : (state.setNode which { state.node which with
          device := { (state.node which).device with
            commitSeen := true
            commitGeneration := (plan.fence index).generation
            commitEnabled := (plan.fence index).enabled }
          toDevice := [] }).Sound plan :=
        sound.setNode (.seen index last ⟨⟨device.requested, device.prepareSeen,
          device.generation, device.target, device.active⟩, device.prepareForwarded,
          device.prepareSent, device.prepareGeneration, device.prepareEnabled⟩ rfl rfl rfl
          ⟨between.up, rfl, between.prepared, between.prepares⟩) rfl
      simpa [State.setDevice, State.setNode] using taken
  | seen index last device commitSeen generation enabled between => exact absurd between.down empty

theorem finishFence (sound : state.Sound plan) (which : Fin (others + 1)) (free : Bool) :
    (state.setDevice which ((state.node which).device.finishFence free)).Sound plan := by
  have still : ∀ unseen : (state.node which).device.commitSeen = false,
      (state.setDevice which ((state.node which).device.finishFence free)).Sound plan := by
    intro unseen
    rw [Device.finishFence, if_neg (by simp [unseen])]
    exact sound.setNode (sound.stage which) rfl
  cases sound.stage which with
  | idle device => exact still device.commitSeen
  | asked device prepareForwarded prepareSent commitSeen => exact still commitSeen
  | forwarded device commitSeen => exact still commitSeen
  | prepared device commitSeen => exact still commitSeen
  | committed index last device commitSeen => exact still commitSeen
  | seen index last device commitSeen commitGeneration commitEnabled between =>
      have matching : ¬ ((state.node which).device.commitGeneration ≠
            (state.node which).device.generation ∨
          (state.node which).device.commitEnabled ≠ (state.node which).device.targetEnabled ∨
          (state.node which).device.targetEnabled =
            (state.node which).device.lifecycleActive) := by
        rw [commitGeneration, commitEnabled, device.generation, device.target, device.active]
        simpa using (plan.target index).1
      rw [Device.finishFence, if_pos ⟨device.prepareForwarded, commitSeen⟩, if_neg matching]
      cases free with
      | false => exact sound.setNode (sound.stage which) rfl
      | true =>
          refine sound.setNode (.idle ?_ ⟨between.up, between.down, between.prepared,
            between.prepares⟩) rfl
          refine ⟨device.requested.trans last.symm, rfl, ?_, rfl, rfl, rfl, ?_⟩
          · intro _
            show (state.node which).device.generation < _
            rw [device.generation, last]
            exact plan.advancing index
          · show (state.node which).device.targetEnabled = _
            rw [device.target, last]
            exact (plan.target index).2

/-- An endpoint that the fabric knows to be prepared is prepared for the next fence. -/
theorem prepared_of_ready (sound : state.Sound plan) (ready : state.ready = true)
    (which : Fin (others + 1)) :
    (state.node which).device.Prepared plan state.fences ∧
      (state.node which).device.commitSeen = false ∧
      (state.node which).Between [] [] true (plan.first (state.fences + 1)) ∧
      (state.node which).endpoint = .prepare (plan.fence state.fences) := by
  have known : (state.node which).endpoint.lifecyclePrepare = true :=
    of_decide_eq_true ready which
  cases sound.stage which with
  | idle device between => simp [between.prepared] at known
  | asked device prepareForwarded prepareSent commitSeen between => simp [between.prepared] at known
  | forwarded device commitSeen between => simp [between.prepared] at known
  | prepared device commitSeen between endpoint => exact ⟨device, commitSeen, between, endpoint⟩
  | committed index last device commitSeen between => simp [between.prepared] at known
  | seen index last device commitSeen generation enabled between => simp [between.prepared] at known

theorem broadcast_eq (sound : state.Sound plan) (ready : state.ready = true)
    (free : Fin (others + 1) → Bool) :
    state.broadcast free =
      if ∀ which, free which = true then
        { state with
          node := fun which =>
            { (state.node which).sendLifecycleCommit (free which) (plan.fence state.fences) with
              endpoint := { Endpoint.prepare (plan.fence state.fences) with
                lifecyclePrepare := false } }
          lifecycleActive := (plan.fence state.fences).enabled
          fences := state.fences + 1 }
      else
        { state with
          node := fun which =>
            (state.node which).sendLifecycleCommit (free which) (plan.fence state.fences) } := by
  have endpoint : ∀ which, (state.node which).endpoint = .prepare (plan.fence state.fences) :=
    fun which => (sound.prepared_of_ready ready which).2.2.2
  have kept : ∀ which, ((state.node which).sendLifecycleCommit (free which)
      (plan.fence state.fences)).endpoint = .prepare (plan.fence state.fences) := by
    intro which
    unfold Node.sendLifecycleCommit
    split <;> exact endpoint which
  have target := (plan.target state.fences).1
  simp only [State.broadcast, endpoint, Endpoint.prepare, sound.active, ne_eq, not_true_eq_false,
    exists_false, if_false, false_or, target]
  split <;> simp [kept, Endpoint.prepare]

theorem broadcast (sound : state.Sound plan) (ready : state.ready = true)
    {free : Fin (others + 1) → Bool}
    (whole : (∀ which, free which = true) ∨ ∀ which, free which = false) :
    (state.broadcast free).Sound plan := by
  rw [sound.broadcast_eq ready]
  rcases whole with all | none
  · rw [if_pos all]
    refine ⟨sound.unbroken, (plan.target state.fences).2, ?_, ?_⟩
    · intro which
      obtain ⟨device, commitSeen, between, -⟩ := sound.prepared_of_ready ready which
      refine .committed state.fences rfl ?_ ?_ ?_
      · simpa [Node.sendLifecycleCommit, all which] using device
      · simpa [Node.sendLifecycleCommit, all which] using commitSeen
      · refine ⟨?_, ?_, rfl, ?_⟩
        · simpa [Node.sendLifecycleCommit, all which] using between.up
        · simp [Node.sendLifecycleCommit, all which, between.down]
        · simpa [Node.sendLifecycleCommit, all which] using between.prepares
    · intro which
      simp [Node.sendLifecycleCommit, all which, sound.commits which, plan.first_succ]
  · have some : ¬ ∀ which, free which = true := fun all => by simpa [none 0] using all 0
    rw [if_neg some]
    refine ⟨sound.unbroken, sound.active, ?_, ?_⟩
    · intro which
      simpa [Node.sendLifecycleCommit, none which] using sound.stage which
    · intro which
      simpa [Node.sendLifecycleCommit, none which] using sound.commits which

end State.Sound

/-! ## Runs -/

/-- A broadcast reaches all endpoints or none. -/
def Whole {others : Nat} (before : State others) : Event others → State others → Prop
  | .broadcast free, _ =>
      before.ready = true → (∀ which, free which = true) ∨ ∀ which, free which = false
  | _, _ => True

instance {others : Nat} (before : State others) (event : Event others) (after : State others) :
    Decidable (Whole before event after) := by
  unfold Whole
  rcases event with _ | _ <;> infer_instance

namespace State.Sound

variable {others : Nat} {plan : Plan} {state next : State others} {event : Event others}

theorem initial : ({} : State others).Sound plan where
  unbroken := rfl
  active := rfl
  stage _ := .idle ⟨rfl, rfl, by simp, rfl, rfl, rfl, rfl⟩ ⟨rfl, rfl, rfl, rfl⟩
  commits _ := rfl

theorem step (sound : state.Sound plan) (taken : Fence.step plan state event = some next)
    (whole : Whole state event next) : next.Sound plan := by
  unfold Fence.step at taken
  simp only [sound.unbroken, Option.isSome_none, Bool.false_eq_true, if_false] at taken
  cases event with
  | request which =>
      dsimp only at taken
      split at taken
      next => simp at taken
      next free =>
        obtain rfl := Option.some.inj taken
        exact sound.request (by simpa using free)
  | sendPrepare which free =>
      obtain ⟨device, messages, sent, after⟩ := sound.sendPrepare which free
      simp only [sent] at taken
      obtain rfl := Option.some.inj taken
      exact after
  | pollPrepare which =>
      dsimp only at taken
      split at taken
      next => simp at taken
      next message rest waiting =>
        obtain rfl := Option.some.inj taken
        exact sound.pollPrepare waiting
  | broadcast free =>
      dsimp only at taken
      split at taken
      next ready =>
        obtain rfl := Option.some.inj taken
        exact sound.broadcast ready (whole ready)
      next => simp at taken
  | pollCommit which =>
      dsimp only at taken
      split at taken
      next => simp at taken
      next =>
        split at taken
        next => simp at taken
        next message rest waiting =>
          obtain rfl := Option.some.inj taken
          exact sound.pollCommit waiting
  | finishFence which free =>
      obtain rfl := Option.some.inj taken
      exact sound.finishFence which free

/-- Every stage has taken the PREPAREs of all fences broadcast so far. -/
theorem prepares (sound : state.Sound plan) (which : Fin (others + 1)) :
    plan.first state.fences <+: (state.node which).prepares := by
  cases sound.stage which with
  | idle device between => rw [between.prepares]
  | asked device prepareForwarded prepareSent commitSeen between => rw [between.prepares]
  | forwarded device commitSeen between => rw [between.prepares]
  | prepared device commitSeen between =>
      rw [between.prepares, plan.first_succ]
      exact List.prefix_append ..
  | committed index last device commitSeen between => rw [between.prepares]
  | seen index last device commitSeen generation enabled between => rw [between.prepares]

end State.Sound

/-- Each endpoint has been sent one COMMIT for each fence, after all endpoints had prepared for
it, nothing was thrown, and a broadcast with room in all rings commits the next fence. -/
structure State.CommitsOnce {others : Nat} (plan : Plan) (state : State others) : Prop where
  unbroken : state.fault = none
  once : ∀ which, (state.node which).commits = plan.first state.fences
  prepared : ∀ which, plan.first state.fences <+: (state.node which).prepares
  progress : state.ready = true → ∃ next, Fence.step plan state (.broadcast fun _ => true) =
    some next ∧ next.fences = state.fences + 1 ∧ next.fault = none

theorem fence_commits_once {others : Nat} {plan : Plan} {state : State others}
    (reached : Reaches (step plan) Whole {} state) : state.CommitsOnce plan := by
  have sound : state.Sound plan := by
    refine reached.invariant State.Sound.initial ?_
    intro before event after sound taken whole
    exact sound.step taken whole
  refine ⟨sound.unbroken, sound.commits, sound.prepares, ?_⟩
  intro ready
  refine ⟨state.broadcast fun _ => true, by simp [step, sound.unbroken, ready], ?_, ?_⟩
  · rw [sound.broadcast_eq ready]
    simp
  · exact (sound.broadcast ready (.inl fun _ => rfl)).unbroken

/-- Fences of generations 1, 2, 3, … -/
def Plan.counting : Plan where
  fence index := ⟨index + 1, decide (index % 2 = 0)⟩
  advancing index := by dsimp only; omega
  alternating index := rfl

/-- Both endpoints have prepared for the first fence. -/
def openingEvents : List (Event 1) :=
  let first : Fin 2 := ⟨0, Nat.zero_lt_two⟩
  let second : Fin 2 := ⟨1, Nat.one_lt_two⟩
  [.request first, .request second, .sendPrepare first true, .sendPrepare second true,
    .pollPrepare first, .pollPrepare second]

/-- One fence of two endpoints, after a broadcast that found both rings full. -/
theorem retried_fence_commits_once :
    ∃ state : State 1, Reaches (step .counting) Whole {} state ∧ state.fences = 1 ∧
      state.CommitsOnce .counting := by
  obtain ⟨state, reached, one⟩ := exists_of_execute
    (show (execute (step .counting) Whole (openingEvents ++ [.broadcast fun _ => false,
      .broadcast fun _ => true, .pollCommit 0, .finishFence 0 true, .request 0]) {}).map
        State.fences = some 1 by decide +kernel)
  exact ⟨state, reached, one, fence_commits_once reached⟩

/-- The ring to the second endpoint is full in the first broadcast; the second one sends the
first endpoint its COMMIT again, and its device throws when it has finished the fence. -/
theorem repeated_commit_rejected :
    ¬ ∀ (others : Nat) (plan : Plan) (state : State others),
      Reaches (step plan) always {} state → state.CommitsOnce plan := by
  intro once
  obtain ⟨state, reached, fault⟩ := exists_of_execute
    (show (execute (step .counting) always (openingEvents ++
      [.broadcast fun which => decide (which = 0), .broadcast fun _ => true, .pollCommit 0,
        .finishFence 0 true, .pollCommit 0]) {}).map State.fault =
          some (some .commitRejected) by decide +kernel)
  have unbroken := (once 1 .counting state reached).unbroken
  simp [unbroken] at fault

end Udma.Fence
