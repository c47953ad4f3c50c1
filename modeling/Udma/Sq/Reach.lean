import Udma.Sq.Acts

/-!
# Runs as actions on lanes

Two global facts hold in every reached state.  Code that is pushed to run at once
is on top of the stack, and the request number a send callback carries names no
request but its own.  With them every step either leaves a lane alone or is one
of the actions `Acts` lists for it.
-/

namespace Udma.Sq

open Udma.Abi Udma.Arithmetic Udma.Collections Udma.Transition

/-! ## Urgent code -/

/-- Activations that are only ever pushed to run next. -/
def Task.urgent : Task → Bool
  | .processSq _ _ direct => !direct.isEmpty
  | .continueSqWqe _ _ _ _ => true
  | .handleSqWqe _ _ => true
  | .submitSqPayload _ _ _ _ => true
  | .completeSq _ _ _ _ => true
  | .retireSq _ => true
  | .finishSq _ _ _ => true
  | .finishSqPipelined _ _ _ => true
  | _ => false

attribute [simp] Task.urgent

/-- No urgent code is waiting. -/
def State.Calm (state : State) : Prop := ∀ task ∈ state.stack, task.urgent = false

/-- Urgent code is on top. -/
def State.Prompt (state : State) : Prop := ∀ task ∈ state.stack.tail, task.urgent = false

theorem State.Calm.prompt {state : State} (calm : state.Calm) : state.Prompt :=
  fun task membership => calm task (List.mem_of_mem_tail membership)

theorem State.Prompt.of_stack {state : State} (pushed : List Task) {rest : List Task}
    (stack : state.stack = pushed ++ rest)
    (calm : ∀ task ∈ rest, task.urgent = false)
    (pushedCalm : ∀ task ∈ pushed.tail, task.urgent = false) : state.Prompt := by
  intro task membership
  rw [stack] at membership
  cases pushed with
  | nil => exact calm task (List.mem_of_mem_tail membership)
  | cons first others =>
      rcases List.mem_append.mp membership with waiting | waiting
      · exact pushedCalm task waiting
      · exact calm task waiting

theorem Ran.prompt {config : Config} {base after : State} {id : Nat} {task : Task}
    (ran : Ran config base id task after) (calm : base.Calm) : after.Prompt := by
  cases ran with
  | absent => exact calm.prompt
  | finishKept => exact calm.prompt
  | completeAbsent => exact calm.prompt
  | continueLast => exact .of_stack [_] rfl calm (by simp)
  | continueRead => exact .of_stack [_] rfl calm (by simp)
  | releaseSqFetch => exact .of_stack [_] rfl calm (by simp)
  | finishPopped => exact .of_stack [_, _] rfl calm (by simp)
  | processSq producer direct jetty _ existing outcome =>
      cases outcome with
      | kicked => exact calm.prompt
      | entered => exact .of_stack [_] rfl calm (by simp)
  | resumeSq jetty _ existing outcome =>
      cases outcome with
      | kicked => exact calm.prompt
      | entered => exact .of_stack [_] rfl calm (by simp)
  | processSqLoop producer jetty _ existing outcome =>
      cases outcome with
      | left => exact calm.prompt
      | direct => exact .of_stack [_, _] rfl calm (by simp)
      | _ => exact .of_stack [_] rfl calm (by simp)
  | fillSqCache producer targetProducer jetty _ existing outcome =>
      cases outcome with
      | fetched => exact .of_stack [_, _] rfl calm (by simp)
      | _ => exact .of_stack [_] rfl calm (by simp)
  | executeSqHead producer targetProducer jetty _ existing outcome =>
      cases outcome with
      | handed | oversized => exact .of_stack [_, _] rfl calm (by simp)
      | _ => exact .of_stack [_] rfl calm (by simp)
  | handleSqWqe raw jetty _ existing outcome =>
      cases outcome with
      | failed => exact calm.prompt
      | released => exact calm.prompt
      | read | prepared | rejected => exact .of_stack [_, _] rfl calm (by simp)
      | inlined | reading => exact .of_stack [_] rfl calm (by simp)
  | drainPreparedWrites jetty _ existing outcome =>
      cases outcome with
      | resumed => exact .of_stack [_] rfl calm (by simp)
      | failed | submitted => exact .of_stack [_, _] rfl calm (by simp)
  | submitSqPayload raw payload reserved jetty _ existing outcome =>
      cases outcome with
      | released => exact calm.prompt
      | lost => exact calm.prompt
      | freshSend | freshWrite => exact .of_stack [_, _] rfl calm (by simp)
      | heldSend | heldWrite => exact .of_stack [_] rfl calm (by simp)
  | completeSq request status substatus jetty _ existing outcome =>
      cases outcome with
      | ignored => exact calm.prompt
      | marked => exact .of_stack [_] rfl calm (by simp)
  | retireSq jetty _ existing outcome =>
      cases outcome with
      | skipped => exact calm.prompt
      | entered => exact .of_stack [_] rfl calm (by simp)
  | retireSqLoop jetty _ existing outcome =>
      cases outcome with
      | stopped => exact calm.prompt
      | published =>
          unfold publishSq
          split
          · exact .of_stack [_, _] rfl calm (by simp)
          · exact .of_stack [_, _] rfl calm (by simp)
  | retireSqPipelinedLoop jetty _ existing outcome =>
      cases outcome with
      | stopped => exact calm.prompt
      | published =>
          unfold publishSq
          split
          · exact .of_stack [_, _] rfl calm (by simp)
          · exact .of_stack [_, _] rfl calm (by simp)
  | finishSqPipelined entry ok jetty _ existing outcome =>
      cases outcome with
      | broken => exact calm.prompt
      | retired => exact .of_stack [_, _] rfl calm (by simp)

theorem Called.prompt {config : Config} {base after : State} {ok : Bool} {bytes : Bytes}
    {id : Nat} {callback : Callback}
    (called : Called config base ok bytes id callback after) (calm : base.Calm) :
    after.Prompt := by
  cases called with
  | absent => exact calm.prompt
  | prefetch start count jetty _ existing outcome =>
      cases outcome with
      | failed => exact calm.prompt
      | arrived => exact .of_stack [_] rfl calm (by simp)
  | continuation raw remaining nextSlot contiguous jetty _ existing outcome =>
      cases outcome with
      | failed => exact calm.prompt
      | arrived => exact .of_stack [_] rfl calm (by simp)
  | writePayload => exact .of_stack [_] rfl calm (by simp)
  | sendPayload raw expected jetty _ existing outcome =>
      cases outcome with
      | failed => exact calm.prompt
      | arrived => exact .of_stack [_] rfl calm (by simp)
  | sendFailed =>
      split
      · exact .of_stack [_] rfl calm (by simp)
      · exact .of_stack [_] rfl calm (by simp)
  | writeSent => exact calm.prompt
  | sendDone => exact .of_stack [_] rfl calm (by simp)
  | cqe => exact .of_stack [_] rfl calm (by simp)

theorem PendingOutcome.prompt {base after : State} (outcome : PendingOutcome base after)
    (calm : base.Calm) : after.Prompt := by
  cases outcome with
  | ignored => exact calm.prompt
  | progressed => exact calm.prompt
  | stored => exact .of_stack [_] rfl calm (by simp)
  | finished => exact .of_stack [_] rfl calm (by simp)

/-! ## Request numbers -/

/-- Every outstanding request has a number already drawn, and a send callback with
that number belongs to the same descriptor.  The callback of a SEND has number 0. -/
structure State.Matched (state : State) : Prop where
  positive : 0 < state.nextRmaRequest
  drawn : ∀ pending ∈ state.pendingRma,
    0 < pending.requestId ∧ pending.requestId < state.nextRmaRequest
  numbered : ∀ id request requestId, .payloadSent id request requestId ∈ state.outstanding →
    (requestId = 0 ↔ request.opcode ≠ 3)
  sent : ∀ id request requestId, .payloadSent id request requestId ∈ state.outstanding →
    requestId < state.nextRmaRequest ∧
    ∀ pending ∈ state.pendingRma, pending.requestId = requestId →
      pending.jettyId = id ∧ pending.request = request

namespace State.Matched

variable {before after : State}

/-- A step that adds neither requests nor send callbacks. -/
theorem of_subset (matched : before.Matched)
    (number : after.nextRmaRequest = before.nextRmaRequest)
    (pending : ∀ pending ∈ after.pendingRma, ∃ known ∈ before.pendingRma,
      known.requestId = pending.requestId ∧ known.jettyId = pending.jettyId ∧
        known.request = pending.request)
    (calls : ∀ id request requestId, .payloadSent id request requestId ∈ after.outstanding →
      .payloadSent id request requestId ∈ before.outstanding) : after.Matched := by
  refine ⟨number ▸ matched.positive, ?_, ?_, ?_⟩
  · intro entry membership
    obtain ⟨known, knownMembership, requestId, _, _⟩ := pending entry membership
    rw [number, ← requestId]
    exact matched.drawn known knownMembership
  · intro id request requestId membership
    exact matched.numbered id request requestId (calls _ _ _ membership)
  · intro id request requestId membership
    obtain ⟨below, own⟩ := matched.sent id request requestId (calls _ _ _ membership)
    refine ⟨number ▸ below, ?_⟩
    intro entry entryMembership same
    obtain ⟨known, knownMembership, sameId, sameOwner, sameRequest⟩ :=
      pending entry entryMembership
    rw [← sameOwner, ← sameRequest]
    exact own known knownMembership (sameId.trans same)

/-- A step that leaves the outstanding requests alone. -/
theorem of_eq (matched : before.Matched)
    (number : after.nextRmaRequest = before.nextRmaRequest)
    (pending : after.pendingRma = before.pendingRma)
    (calls : ∀ id request requestId, .payloadSent id request requestId ∈ after.outstanding →
      .payloadSent id request requestId ∈ before.outstanding) : after.Matched :=
  matched.of_subset number
    (fun entry membership => ⟨entry, pending ▸ membership, rfl, rfl, rfl⟩) calls

/-- A SEND is handed to the network: its callback carries no request number. -/
theorem send (matched : before.Matched) {id : Nat} {request : SqRequest}
    (opcode : request.opcode ≠ 3)
    (number : after.nextRmaRequest = before.nextRmaRequest)
    (pending : after.pendingRma = before.pendingRma)
    (calls : after.outstanding = before.outstanding ++ [.payloadSent id request 0]) :
    after.Matched := by
  refine ⟨number ▸ matched.positive, ?_, ?_, ?_⟩
  · rw [pending, number]
    exact matched.drawn
  · intro other otherRequest requestId membership
    rw [calls, List.mem_append] at membership
    rcases membership with old | new
    · exact matched.numbered other otherRequest requestId old
    · obtain ⟨rfl, rfl, rfl⟩ : other = id ∧ otherRequest = request ∧ requestId = 0 := by
        simpa using new
      simp [opcode]
  · intro other otherRequest requestId membership
    rw [calls, List.mem_append] at membership
    rw [number, pending]
    rcases membership with old | new
    · exact matched.sent other otherRequest requestId old
    · obtain ⟨rfl, rfl, rfl⟩ : other = id ∧ otherRequest = request ∧ requestId = 0 := by
        simpa using new
      refine ⟨matched.positive, ?_⟩
      intro entry entryMembership zero
      have := matched.drawn entry entryMembership
      omega

/-- A request is recorded under the next number, and handed to the network. -/
theorem record (matched : before.Matched) {added : PendingRma} {callback : Callback}
    (number : after.nextRmaRequest = before.nextRmaRequest + 1)
    (pending : after.pendingRma = before.pendingRma ++ [added])
    (fresh : added.requestId = before.nextRmaRequest)
    (calls : after.outstanding = before.outstanding ++ [callback])
    (own : ∀ id request requestId, callback = .payloadSent id request requestId →
      requestId = before.nextRmaRequest ∧ added.jettyId = id ∧ added.request = request ∧
        request.opcode = 3) :
    after.Matched := by
  have positive := matched.positive
  refine ⟨by omega, ?_, ?_, ?_⟩
  · intro entry membership
    rw [pending, List.mem_append] at membership
    rw [number]
    rcases membership with old | new
    · have := matched.drawn entry old
      omega
    · obtain rfl : entry = added := by simpa using new
      omega
  · intro id request requestId membership
    rw [calls, List.mem_append] at membership
    rcases membership with old | new
    · exact matched.numbered id request requestId old
    · obtain ⟨latest, _, _, write⟩ := own id request requestId
        (List.mem_singleton.mp new).symm
      have : requestId ≠ 0 := by omega
      simp [this, write]
  · intro id request requestId membership
    rw [calls, List.mem_append] at membership
    rw [number, pending]
    rcases membership with old | new
    · obtain ⟨below, matching⟩ := matched.sent id request requestId old
      refine ⟨by omega, ?_⟩
      intro entry entryMembership same
      rcases List.mem_append.mp entryMembership with oldEntry | newEntry
      · exact matching entry oldEntry same
      · obtain rfl : entry = added := by simpa using newEntry
        omega
    · obtain ⟨latest, owner, descriptor, _⟩ := own id request requestId
        (List.mem_singleton.mp new).symm
      refine ⟨by omega, ?_⟩
      intro entry entryMembership same
      rcases List.mem_append.mp entryMembership with oldEntry | newEntry
      · have := matched.drawn entry oldEntry
        omega
      · obtain rfl : entry = added := by simpa using newEntry
        exact ⟨owner, descriptor⟩

end State.Matched

theorem Ran.matched {config : Config} {base after : State} {id : Nat} {task : Task}
    (ran : Ran config base id task after) (matched : base.Matched) : after.Matched := by
  cases ran with
  | absent => exact matched
  | finishKept => exact matched
  | completeAbsent => exact matched.of_eq rfl rfl (by simp)
  | continueLast => exact matched.of_eq rfl rfl (by simp)
  | continueRead => exact matched.of_eq rfl rfl (by simp)
  | releaseSqFetch => exact matched.of_eq rfl rfl (by simp)
  | finishPopped => exact matched.of_eq rfl rfl (by simp)
  | processSq producer direct jetty _ existing outcome =>
      cases outcome <;> exact matched.of_eq rfl rfl (by simp)
  | resumeSq jetty _ existing outcome =>
      cases outcome <;> exact matched.of_eq rfl rfl (by simp)
  | processSqLoop producer jetty _ existing outcome =>
      cases outcome <;> exact matched.of_eq rfl rfl (by simp)
  | fillSqCache producer targetProducer jetty _ existing outcome =>
      cases outcome <;> exact matched.of_eq rfl rfl (by simp)
  | executeSqHead producer targetProducer jetty _ existing outcome =>
      cases outcome <;> exact matched.of_eq rfl rfl (by simp)
  | handleSqWqe raw jetty _ existing outcome =>
      cases outcome with
      | read route frame pending admitted opcode tpn port owner number request =>
          exact matched.record rfl rfl number rfl (by simp)
      | failed => exact matched.of_eq rfl rfl (by simp)
      | released => exact matched.of_eq rfl rfl (by simp)
      | prepared => exact matched.of_eq rfl rfl (by simp [prepareWrite, reserveSq])
      | rejected => exact matched.of_eq rfl rfl (by simp [rejectSend, reserveSq])
      | inlined => exact matched.of_eq rfl rfl (by simp)
      | reading => exact matched.of_eq rfl rfl (by simp)
  | drainPreparedWrites jetty _ existing outcome =>
      cases outcome <;> exact matched.of_eq rfl rfl (by simp)
  | submitSqPayload raw payload reserved jetty _ existing outcome =>
      cases outcome with
      | released => exact matched.of_eq rfl rfl (by simp)
      | lost => exact matched
      | freshSend route frame opcode => exact matched.send opcode rfl rfl rfl
      | heldSend held route frame opcode => exact matched.send opcode rfl rfl rfl
      | freshWrite route frame pending opcode sound found tpn port owner number request =>
          refine matched.record rfl rfl number rfl ?_
          rintro _ _ _ ⟨⟩
          exact ⟨rfl, owner, request, opcode⟩
      | heldWrite held route frame pending opcode found tpn port owner number request =>
          refine matched.record rfl rfl number rfl ?_
          rintro _ _ _ ⟨⟩
          exact ⟨rfl, owner, request, opcode⟩
  | completeSq request status substatus jetty _ existing outcome =>
      cases outcome <;> exact matched.of_eq rfl rfl (by simp)
  | retireSq jetty _ existing outcome =>
      cases outcome <;> exact matched.of_eq rfl rfl (by simp)
  | retireSqLoop jetty _ existing outcome =>
      cases outcome with
      | stopped => exact matched.of_eq rfl rfl (by simp)
      | published =>
          unfold publishSq
          split <;> exact matched.of_eq rfl rfl (by simp)
  | retireSqPipelinedLoop jetty _ existing outcome =>
      cases outcome with
      | stopped => exact matched.of_eq rfl rfl (by simp)
      | published =>
          unfold publishSq
          split <;> exact matched.of_eq rfl rfl (by simp)
  | finishSqPipelined entry ok jetty _ existing outcome =>
      cases outcome <;> exact matched.of_eq rfl rfl (by simp)

theorem Called.matched {config : Config} {base after : State} {ok : Bool} {bytes : Bytes}
    {id : Nat} {callback : Callback}
    (called : Called config base ok bytes id callback after) (matched : base.Matched) :
    after.Matched := by
  cases called with
  | absent => exact matched
  | prefetch start count jetty _ existing outcome =>
      cases outcome <;> exact matched.of_eq rfl rfl (by simp)
  | continuation raw remaining nextSlot contiguous jetty _ existing outcome =>
      cases outcome <;> exact matched.of_eq rfl rfl (by simp)
  | writePayload => exact matched.of_eq rfl rfl (by simp)
  | sendPayload raw expected jetty _ existing outcome =>
      cases outcome <;> exact matched.of_eq rfl rfl (by simp)
  | sendFailed request requestId bad =>
      split
      · refine matched.of_subset rfl ?_ (by simp)
        intro entry membership
        exact ⟨entry, List.mem_of_mem_eraseP membership, rfl, rfl, rfl⟩
      · exact matched.of_eq rfl rfl (by simp)
  | writeSent => exact matched
  | sendDone => exact matched.of_eq rfl rfl (by simp)
  | cqe => exact matched.of_eq rfl rfl (by simp)

/-- A found request splits the list of requests at its place. -/
theorem State.findPending_split {state : State} {pending : PendingRma}
    (found : state.findPending pending.requestId = some pending) :
    ∃ earlier later, state.pendingRma = earlier ++ pending :: later ∧
      (state.erasePending pending.requestId).pendingRma = earlier ++ later ∧
      ∀ progress : PendingRma, progress.requestId = pending.requestId →
        (state.setPending progress).pendingRma = earlier ++ progress :: later := by
  obtain ⟨earlier, later, shape, skipped, hit⟩ := split_of_find found
  refine ⟨earlier, later, shape, ?_, ?_⟩
  · simp only [State.erasePending_pendingRma, shape]
    exact eraseP_append skipped hit
  · intro progress same
    simp only [State.setPending_pendingRma, shape, same]
    exact markFirst_append skipped hit

theorem PendingOutcome.matched {base after : State} (outcome : PendingOutcome base after)
    (matched : base.Matched) : after.Matched := by
  have replaced : ∀ (pending progress : PendingRma),
      base.findPending pending.requestId = some pending →
      progress.requestId = pending.requestId → progress.jettyId = pending.jettyId →
      progress.request = pending.request → (base.setPending progress).Matched := by
    intro pending progress found number owner request
    obtain ⟨earlier, later, shape, _, replace⟩ := State.findPending_split found
    refine matched.of_subset rfl ?_ (by simp)
    intro entry membership
    rw [replace progress number] at membership
    rw [shape]
    rcases List.mem_append.mp membership with old | tail
    · exact ⟨entry, List.mem_append_left _ old, rfl, rfl, rfl⟩
    · rcases List.mem_cons.mp tail with rfl | old
      · exact ⟨pending, by simp, number.symm, owner.symm, request.symm⟩
      · exact ⟨entry, by simp [old], rfl, rfl, rfl⟩
  cases outcome with
  | ignored => exact matched
  | progressed pending progress found number owner request =>
      exact replaced pending progress found number owner request
  | stored pending progress taSsn address length found number owner request =>
      exact (replaced pending progress found number owner request).of_eq rfl rfl (by simp)
  | finished pending status found =>
      refine matched.of_subset rfl ?_ (by simp)
      intro entry membership
      exact ⟨entry, List.mem_of_mem_eraseP membership, rfl, rfl, rfl⟩

/-! ## Actions -/

/-- A Jetty just created. -/
structure Jetty.Fresh (jetty : Jetty) : Prop where
  pipe : jetty.pipe = {}
  consumer : jetty.context.consumer = 0
  targetProducer : jetty.context.targetProducer = 0
  directPending : jetty.context.directPending = false
  directWqe : jetty.context.directWqe = List.replicate 64 0

inductive DirectOutcome (state : State) (id offset : Nat) (data : Bytes) (jetty : Jetty) :
    State → Prop where
  | stored (valid : Nat) :
      DirectOutcome state id offset data jetty
        (state.setJetty id ⟨{ jetty.context with
          directWqe := storeBytes jetty.context.directWqe offset data
          directValid := valid }, jetty.pipeline⟩)
  | completed (producer : Nat) :
      DirectOutcome state id offset data jetty
        (((state.setJetty id ⟨{ jetty.context with
            directWqe := storeBytes jetty.context.directWqe offset data
            directValid := 0
            directPending := true }, jetty.pipeline⟩).emit
          [.direct id producer (storeBytes jetty.context.directWqe offset data)]).push
            [.processSq id producer (storeBytes jetty.context.directWqe offset data)])

theorem directWrite_outcome {state : State} {id : Nat} {jetty : Jetty}
    (existing : state.jetty id = some jetty) (offset : Nat) (data : Bytes) :
    DirectOutcome state id offset data jetty (directWrite state id offset data) := by
  simp only [directWrite, existing]
  split
  · exact .completed _
  · exact .stored _

/-- The state with other callbacks outstanding. -/
@[simps]
def State.holding (base : State) (calls : List Callback) : State :=
  { base with outstanding := calls }

@[simp] theorem State.lane_holding (base : State) (calls : List Callback) (id : Nat) :
    (base.holding calls).lane id =
      { base.lane id with calls := calls.filter (Callback.on id) } := rfl

/-! ## Steps by kind -/

/-- What the TP commands and the link state can do to the routes. -/
inductive RouteOutcome (state : State) : Event → State → Prop where
  | raised (port : Nat) :
      RouteOutcome state (.setLinkState port true)
        { state with linkUp := state.linkUp.set port true }
  | lowered (port : Nat) :
      RouteOutcome state (.setLinkState port false)
        { state with
          linkUp := state.linkUp.set port false
          tpRoutes := state.tpRoutes.map (·.rebind (state.linkUp.set port false) port) }
  | added (localEid remoteEid nextId nextPort : Nat) (route : TpRoute)
      (fresh : findRoute state.tpRoutes route.id = none) :
      RouteOutcome state (.getTp localEid remoteEid)
        { state with
          nextTpId := nextId
          nextTpPort := nextPort
          tpRoutes := state.tpRoutes ++ [route] }
  | switched (tpn : Nat) (active : Bool) :
      RouteOutcome state (.setTpActive tpn active)
        { state with
          tpRoutes := state.tpRoutes.map fun other =>
            if other.id = tpn then { other with active := active } else other }
  | removed (tpn : Nat) (route : TpRoute) (found : findRoute state.tpRoutes tpn = some route)
      (inactive : route.active = false) (idle : state.pendingRma = []) :
      RouteOutcome state (.removeTp tpn)
        { state with tpRoutes := state.tpRoutes.filter fun other => !(other.id == tpn) }

/-- What a step can be. -/
inductive Stepped (config : Config) (state : State) : Event → State → Prop where
  | returned (rest : List Task) (top : state.stack = .external :: rest) :
      Stepped config state .run { state with stack := rest }
  | ran (task : Task) (rest : List Task) (who : Nat) (after : State)
      (top : state.stack = task :: rest) (own : task.on who = true)
      (ran : Ran config { state with stack := rest } who task after) :
      Stepped config state .run after
  | called (index : Nat) (ok : Bool) (bytes : Bytes) (callback : Callback) (who : Nat)
      (after : State) (chosen : state.outstanding[index]? = some callback)
      (own : callback.on who = true)
      (called : Called config (state.holding (state.outstanding.eraseIdx index)) ok bytes who
        callback after) :
      Stepped config state (.fire index ok bytes) after
  | answered (index : Nat) (ok : Bool) (bytes : Bytes) (callback : Callback) (after : State)
      (chosen : state.outstanding[index]? = some callback)
      (outcome : PendingOutcome (state.holding (state.outstanding.eraseIdx index)) after) :
      Stepped config state (.fire index ok bytes) after
  | received (reply : Reply) (after : State) (outcome : PendingOutcome state after) :
      Stepped config state (.receive reply) after
  | doorbell (who producer : Nat) :
      Stepped config state (.doorbell who producer)
        (state.push [.processSq who (producer % 2 ^ 32) []])
  | direct (who offset : Nat) (data : Bytes) (jetty : Jetty) (after : State)
      (existing : state.jetty who = some jetty)
      (outcome : DirectOutcome state who offset data jetty after) :
      Stepped config state (.directWrite who offset data) after
  | created (who : Nat) (context : QueueContext) (jetty : Jetty)
      (missing : state.jetty who = none) (fresh : jetty.Fresh) :
      Stepped config state (.createJetty who context) (state.setJetty who jetty)
  | routed (event : Event) (after : State) (outcome : RouteOutcome state event after) :
      Stepped config state event after
  | searched (localEid remoteEid nextId nextPort : Nat) :
      Stepped config state (.getTp localEid remoteEid)
        { state with nextTpId := nextId, nextTpPort := nextPort }
  | refused (event : Event) : Stepped config state event state

/-- What a step can do to the lane of Jetty `id`. -/
inductive Acts (config : Config) (id : Nat) (state : State) : Event → State → Prop where
  | task (base : State) (task : Task) (after : State)
      (before : state = base.push [task]) (own : task.on id = true) (calm : base.Calm)
      (ran : Ran config base id task after) :
      Acts config id state .run after
  | callback (index : Nat) (ok : Bool) (bytes : Bytes) (callback : Callback)
      (calls : List Callback) (base after : State) (own : callback.on id = true) (calm : base.Calm)
      (before : state = base.holding calls) (chosen : calls[index]? = some callback)
      (held : calls.Perm (callback :: base.outstanding))
      (called : Called config base ok bytes id callback after) :
      Acts config id state (.fire index ok bytes) after
  | progressed (event : Event) (after : State) (pending progress : PendingRma)
      (earlier later : List PendingRma) (observed : List Observation) (calm : state.Calm)
      (held : (state.lane id).pending = earlier ++ pending :: later)
      (owner : progress.jettyId = pending.jettyId)
      (request : progress.request = pending.request)
      (silent : ∀ observation ∈ observed, ∃ token address length,
        observation = .dmaWrite id token address length)
      (lane : after.lane id = { state.lane id with
        pending := earlier ++ progress :: later
        trace := (state.lane id).trace ++ observed }) :
      Acts config id state event after
  | finished (event : Event) (after : State) (pending : PendingRma)
      (earlier later : List PendingRma) (status : Nat) (calm : state.Calm)
      (held : (state.lane id).pending = earlier ++ pending :: later)
      (lane : after.lane id = { state.lane id with
        pending := earlier ++ later
        tasks := .completeSq id pending.request status 0 :: (state.lane id).tasks }) :
      Acts config id state event after
  | doorbell (producer : Nat) (calm : state.Calm) :
      Acts config id state (.doorbell id producer)
        (state.push [.processSq id (producer % 2 ^ 32) []])
  | direct (offset : Nat) (data : Bytes) (jetty : Jetty) (after : State) (calm : state.Calm)
      (existing : state.jetty id = some jetty)
      (outcome : DirectOutcome state id offset data jetty after) :
      Acts config id state (.directWrite id offset data) after
  | created (context : QueueContext) (jetty : Jetty) (calm : state.Calm)
      (missing : (state.lane id).jetty = .blank) (fresh : jetty.Fresh) :
      Acts config id state (.createJetty id context) (state.setJetty id jetty)

theorem PendingOutcome.acts {config : Config} {base after state : State}
    (outcome : PendingOutcome base after) (event : Event) (id : Nat) (calm : state.Calm)
    (same : base.lane id = state.lane id) :
    after.lane id = state.lane id ∨ Acts config id state event after := by
  cases outcome with
  | ignored => exact .inl same
  | progressed pending progress found number owner request =>
      obtain ⟨earlier, later, shape, _, replace⟩ := State.findPending_split found
      have lane : (base.setPending progress).lane id = { state.lane id with
          pending := (earlier ++ progress :: later).filter (·.jettyId == id) } := by
        rw [← replace progress number, ← same]
        rfl
      have pendings : (state.lane id).pending =
          (earlier ++ pending :: later).filter (·.jettyId == id) := by
        rw [← shape, ← same]
        rfl
      by_cases own : pending.jettyId = id
      · right
        refine .progressed event _ pending progress (earlier.filter (·.jettyId == id))
          (later.filter (·.jettyId == id)) [] calm ?_ owner request (by simp) ?_
        · simp [pendings, own]
        · simp [lane, owner, own]
      · left
        have : (state.lane id).pending =
            (earlier ++ progress :: later).filter (·.jettyId == id) := by
          simp [pendings, owner, own]
        rw [lane, ← this]
  | stored pending progress taSsn address length found number owner request =>
      obtain ⟨earlier, later, shape, _, replace⟩ := State.findPending_split found
      have lane : (base.setPending progress).lane id = { state.lane id with
          pending := (earlier ++ progress :: later).filter (·.jettyId == id) } := by
        rw [← replace progress number, ← same]
        rfl
      have pendings : (state.lane id).pending =
          (earlier ++ pending :: later).filter (·.jettyId == id) := by
        rw [← shape, ← same]
        rfl
      by_cases own : pending.jettyId = id
      · right
        refine .progressed event _ pending progress (earlier.filter (·.jettyId == id))
          (later.filter (·.jettyId == id))
          [.dmaWrite pending.jettyId pending.localToken address length] calm ?_ owner request
          (by simp [own]) ?_
        · simp [pendings, own]
        · simp [lane, owner, own]
      · left
        have : (state.lane id).pending =
            (earlier ++ progress :: later).filter (·.jettyId == id) := by
          simp [pendings, owner, own]
        simp [lane, ← this, own]
  | finished pending status found =>
      obtain ⟨earlier, later, shape, erase, _⟩ := State.findPending_split found
      have lane : (base.erasePending pending.requestId).lane id = { state.lane id with
          pending := (earlier ++ later).filter (·.jettyId == id) } := by
        rw [← erase, ← same]
        rfl
      have pendings : (state.lane id).pending =
          (earlier ++ pending :: later).filter (·.jettyId == id) := by
        rw [← shape, ← same]
        rfl
      by_cases own : pending.jettyId = id
      · right
        refine .finished event _ pending (earlier.filter (·.jettyId == id))
          (later.filter (·.jettyId == id)) status calm ?_ ?_
        · simp [pendings, own]
        · simp [lane, own]
      · left
        have : (state.lane id).pending =
            (earlier ++ later).filter (·.jettyId == id) := by
          simp [pendings, own]
        simp [lane, ← this, own]

/-- A callback leaves the other lanes alone: the request that a failed send removes
is its own. -/
theorem Called.lane_other {config : Config} {base after : State} {ok : Bool} {bytes : Bytes}
    {who other : Nat} {callback : Callback}
    (called : Called config base ok bytes who callback after)
    (own : ∀ request requestId, callback = .payloadSent who request requestId →
      ∀ pending ∈ base.pendingRma, pending.requestId = requestId → pending.jettyId = who)
    (different : other ≠ who) : after.lane other = base.lane other := by
  have apart : ¬ who = other := fun same => different same.symm
  cases called with
  | absent => rfl
  | writeSent => rfl
  | prefetch start count jetty _ existing outcome =>
      cases outcome <;> simp [different, apart]
  | continuation raw remaining nextSlot contiguous jetty _ existing outcome =>
      cases outcome <;> simp [different, apart]
  | writePayload => simp [different, apart]
  | sendPayload raw expected jetty _ existing outcome =>
      cases outcome <;> simp [different, apart]
  | sendFailed request requestId bad =>
      have erased : (base.erasePending requestId).lane other = base.lane other := by
        cases found : base.findPending requestId with
        | none =>
            have absent : base.erasePending requestId = base := by
              have : base.pendingRma.eraseP (·.requestId == requestId) = base.pendingRma :=
                List.eraseP_of_forall_not (by simpa [State.findPending] using found)
              simp [State.erasePending, this]
            rw [absent]
        | some pending =>
            obtain rfl := findPending_requestId found
            obtain ⟨earlier, later, shape, erase, _⟩ := State.findPending_split found
            have owner : pending.jettyId = who :=
              own request pending.requestId rfl pending (by simp [shape]) rfl
            have : (base.erasePending pending.requestId).pendingRma.filter
                (·.jettyId == other) = base.pendingRma.filter (·.jettyId == other) := by
              rw [erase, shape]
              simp [owner, apart]
            simp only [State.lane, this]
            rfl
      split
      · simp [erased, apart]
      · simp [apart]
  | sendDone => simp [apart]
  | cqe => split <;> simp [apart]

/-- Deleting the callback at `index` splits the outstanding ones there. -/
theorem outstanding_split {calls : List Callback} {index : Nat} {callback : Callback}
    (held : calls[index]? = some callback) :
    calls.Perm (callback :: calls.eraseIdx index) := by
  obtain ⟨inside, rfl⟩ := List.getElem?_eq_some_iff.mp held
  have shape : calls = calls.take index ++ calls[index] :: calls.drop (index + 1) := by
    rw [List.getElem_cons_drop, List.take_append_drop]
  rw [List.eraseIdx_eq_take_drop_succ]
  exact (List.Perm.of_eq shape).trans List.perm_middle

/-- The two facts that make steps actions. -/
structure State.Settled (state : State) : Prop where
  prompt : state.Prompt
  matched : state.Matched

theorem State.initial_settled (config : Config) : (State.initial config).Settled where
  prompt := by simp [Prompt, initial]
  matched := ⟨by simp [initial], by simp [initial], by simp [initial], by simp [initial]⟩

theorem State.Prompt.calm {state : State} (prompt : state.Prompt)
    (boundary : state.atBoundary = true) : state.Calm := by
  intro task membership
  unfold State.atBoundary at boundary
  split at boundary
  next empty => simp [empty] at membership
  next rest top =>
    rw [top] at membership
    rcases List.mem_cons.mp membership with rfl | waiting
    · rfl
    · exact prompt task (by simpa [top] using waiting)
  next => simp at boundary

theorem Task.on_exists (task : Task) : task = .external ∨ ∃ who, task.on who = true := by
  cases task <;> simp

theorem Callback.on_exists (callback : Callback) :
    (∃ requestId, callback = .readSent requestId) ∨
    (∃ requestId taSsn length, callback = .response requestId taSsn length) ∨
    ∃ who, callback.on who = true := by
  cases callback <;> simp

theorem Task.on_unique {task : Task} {first second : Nat} (one : task.on first = true)
    (two : task.on second = true) : first = second := by
  cases task <;> simp_all

theorem Callback.on_unique {callback : Callback} {first second : Nat}
    (one : callback.on first = true) (two : callback.on second = true) : first = second := by
  cases callback <;> simp_all

theorem step_stepped {config : Config} {state next : State} {event : Event}
    (taken : step config state event = some next) : Stepped config state event next := by
  cases event with
  | run =>
      simp only [step] at taken
      split at taken
      next => simp at taken
      next task rest top =>
        obtain rfl := Option.some.inj taken
        rcases task.on_exists with rfl | ⟨who, own⟩
        · exact .returned rest top
        · exact .ran task rest who _ top own (exec_ran config _ who task own)
  | fire index ok bytes =>
      simp only [step, environment] at taken
      split at taken
      next boundary =>
        split at taken
        next => simp at taken
        next callback chosen =>
          obtain rfl := Option.some.inj taken
          rcases callback.on_exists with ⟨requestId, rfl⟩ | ⟨requestId, taSsn, length, rfl⟩ |
            ⟨who, own⟩
          · exact .answered index ok bytes _ _ chosen (readSent_outcome _ requestId ok)
          · exact .answered index ok bytes _ _ chosen
              (responseStored_outcome _ requestId taSsn length ok)
          · exact .called index ok bytes callback who _ chosen own
              (runCallback_called config _ ok bytes who callback own)
      next => simp at taken
  | doorbell who producer =>
      simp only [step, environment] at taken
      split at taken
      · obtain rfl := Option.some.inj taken
        exact .doorbell who producer
      · simp at taken
  | directWrite who offset data =>
      simp only [step, environment] at taken
      split at taken
      · split at taken
        · simp at taken
        · obtain rfl := Option.some.inj taken
          cases existing : state.jetty who with
          | none =>
              simp only [directWrite, existing]
              exact .refused _
          | some jetty =>
              exact .direct who offset data jetty _ existing
                (directWrite_outcome existing offset data)
      · simp at taken
  | receive reply =>
      simp only [step, environment] at taken
      split at taken
      · obtain rfl := Option.some.inj taken
        exact .received reply _ (receive_outcome state reply)
      · simp at taken
  | setLinkState port up =>
      simp only [step, environment] at taken
      split at taken
      · obtain rfl := Option.some.inj taken
        unfold setLinkState
        dsimp only
        split
        · exact .refused _
        · cases up with
          | true => exact .routed _ _ (.raised port)
          | false => exact .routed _ _ (.lowered port)
      · simp at taken
  | getTp localEid remoteEid =>
      simp only [step, environment] at taken
      split at taken
      · obtain rfl := Option.some.inj taken
        unfold getTp
        dsimp only
        split
        · exact .refused _
        · split
          · exact .searched localEid remoteEid _ _
          · split
            · exact .searched localEid remoteEid _ _
            next free =>
              refine .routed _ _ (.added localEid remoteEid _ _ _ ?_)
              simpa using free
      · simp at taken
  | setTpActive tpn active =>
      simp only [step, environment] at taken
      split at taken
      · obtain rfl := Option.some.inj taken
        unfold setTpActive
        split
        · exact .refused _
        · split
          · exact .refused _
          · exact .routed _ _ (.switched tpn active)
      · simp at taken
  | removeTp tpn =>
      simp only [step, environment] at taken
      split at taken
      · obtain rfl := Option.some.inj taken
        unfold removeTp
        split
        · exact .refused _
        next route found =>
          split
          · exact .refused _
          next allowed =>
            simp only [not_or, Bool.not_eq_true, Decidable.not_not] at allowed
            exact .routed _ _ (.removed tpn route found allowed.1 allowed.2)
      · simp at taken
  | createJetty who context =>
      simp only [step, environment] at taken
      split at taken
      · obtain rfl := Option.some.inj taken
        unfold createJetty
        split
        · exact .refused _
        next possible =>
          have missing : state.jetty who = none := by
            simp only [not_or, Bool.not_eq_true, Option.isSome_eq_false_iff,
              Option.isNone_iff_eq_none] at possible
            exact possible.1
          exact .created who context _ missing ⟨rfl, rfl, rfl, rfl, rfl⟩
      · simp at taken

section Steps

variable {config : Config} {base state next : State}

/-- Running the top of the stack keeps the two facts, and either leaves a lane alone
or acts on it. -/
theorem run_acts (config : Config) {task : Task} (settled : (base.push [task]).Settled) :
    (exec config base task).Settled ∧
    ∀ id, (exec config base task).lane id = (base.push [task]).lane id ∨
      Acts config id (base.push [task]) .run (exec config base task) := by
  have calm : base.Calm := fun other membership =>
    settled.prompt other (by simpa using membership)
  have matched : base.Matched := settled.matched.of_eq rfl rfl (by simp)
  rcases task.on_exists with rfl | ⟨who, own⟩
  · exact ⟨⟨calm.prompt, matched⟩, fun id => .inl (by simp [exec])⟩
  · have ran := exec_ran config base who task own
    refine ⟨⟨ran.prompt calm, ran.matched matched⟩, fun id => ?_⟩
    by_cases same : id = who
    · subst same
      exact .inr (.task base task _ rfl own calm ran)
    · left
      have off : task.on id = false := by
        by_contra on
        exact same (Task.on_unique (by simpa using on) own)
      rw [ran.lane_other same, State.lane_push, List.filter_singleton, off]
      rfl

/-- The same for a callback. -/
theorem fire_acts {index : Nat} {callback : Callback} (ok : Bool) (bytes : Bytes)
    (settled : state.Settled) (calm : state.Calm)
    (held : state.outstanding[index]? = some callback)
    (without : base = state.holding (state.outstanding.eraseIdx index)) :
    (runCallback config base ok bytes callback).Settled ∧
    ∀ id, (runCallback config base ok bytes callback).lane id = state.lane id ∨
      Acts config id state (.fire index ok bytes)
        (runCallback config base ok bytes callback) := by
  have split : state.outstanding.Perm (callback :: base.outstanding) := by
    subst without
    exact outstanding_split held
  have restored : state = base.holding state.outstanding := by
    subst without
    rfl
  have baseCalm : base.Calm := by
    subst without
    exact calm
  have matched : base.Matched := by
    subst without
    exact settled.matched.of_eq rfl rfl fun _ _ _ membership =>
      List.mem_of_mem_eraseIdx membership
  have offLane : ∀ id, callback.on id = false → base.lane id = state.lane id := by
    intro id off
    subst without
    obtain ⟨inside, rfl⟩ := List.getElem?_eq_some_iff.mp held
    have shape : state.outstanding = state.outstanding.take index ++
        state.outstanding[index] :: state.outstanding.drop (index + 1) := by
      rw [List.getElem_cons_drop, List.take_append_drop]
    have same : (state.outstanding.eraseIdx index).filter (Callback.on id) =
        state.outstanding.filter (Callback.on id) := by
      conv => rhs; rw [shape]
      rw [List.eraseIdx_eq_take_drop_succ, List.filter_append, List.filter_append,
        List.filter_cons_of_neg (Bool.eq_false_iff.mp off)]
    rw [State.lane_holding, same]
    rfl
  rcases callback.on_exists with ⟨requestId, rfl⟩ | ⟨requestId, taSsn, length, rfl⟩ | ⟨who, own⟩
  · have outcome := readSent_outcome base requestId ok
    exact ⟨⟨outcome.prompt baseCalm, outcome.matched matched⟩,
      fun id => outcome.acts _ id calm (offLane id rfl)⟩
  · have outcome := responseStored_outcome base requestId taSsn length ok
    exact ⟨⟨outcome.prompt baseCalm, outcome.matched matched⟩,
      fun id => outcome.acts _ id calm (offLane id rfl)⟩
  · have called := runCallback_called config base ok bytes who callback own
    refine ⟨⟨called.prompt baseCalm, called.matched matched⟩, fun id => ?_⟩
    by_cases same : id = who
    · subst same
      exact .inr (.callback index ok bytes callback _ base _ own baseCalm restored held split
        called)
    · left
      have off : callback.on id = false := by
        by_contra on
        exact same (Callback.on_unique (by simpa using on) own)
      rw [called.lane_other ?_ same, offLane id off]
      intro request requestId sent pending membership number
      subst sent
      have known : .payloadSent who request requestId ∈ state.outstanding :=
        split.symm.subset (by simp)
      have requests : base.pendingRma = state.pendingRma := by
        rw [restored]
        rfl
      exact ((settled.matched.sent who request requestId known).2 pending
        (requests ▸ membership) number).1

/-- Every step keeps the two facts, and either leaves a lane alone or acts on it. -/
theorem step_acts {event : Event} (settled : state.Settled)
    (taken : step config state event = some next) :
    next.Settled ∧
    ∀ id, next.lane id = state.lane id ∨ Acts config id state event next := by
  cases event with
  | run =>
      simp only [step] at taken
      split at taken
      next => simp at taken
      next task rest top =>
        obtain rfl := Option.some.inj taken
        have pushed := state.push_pop top
        rw [← pushed] at settled
        have acted := run_acts config settled
        rwa [pushed] at acted
  | fire index ok bytes =>
      simp only [step] at taken
      split at taken
      next boundary =>
        simp only [environment] at taken
        split at taken
        next => simp at taken
        next callback held =>
          obtain rfl := Option.some.inj taken
          exact fire_acts ok bytes settled (settled.prompt.calm boundary) held rfl
      next => simp at taken
  | doorbell who producer =>
      simp only [step] at taken
      split at taken
      next boundary =>
        have calm := settled.prompt.calm boundary
        obtain rfl := Option.some.inj taken
        refine ⟨⟨.of_stack [_] rfl calm (by simp), settled.matched.of_eq rfl rfl (by simp)⟩, ?_⟩
        intro id
        by_cases same : who = id
        · subst same
          exact .inr (.doorbell producer calm)
        · exact .inl (by simp [same])
      next => simp at taken
  | directWrite who offset data =>
      simp only [step, environment] at taken
      split at taken
      next boundary =>
        have calm := settled.prompt.calm boundary
        split at taken
        next => simp at taken
        next =>
          obtain rfl := Option.some.inj taken
          cases existing : state.jetty who with
          | none =>
              have unchanged : directWrite state who offset data = state := by
                simp only [directWrite, existing]
              rw [unchanged]
              exact ⟨settled, fun id => .inl rfl⟩
          | some jetty =>
              have outcome := directWrite_outcome existing offset data
              generalize directWrite state who offset data = after at outcome ⊢
              refine ⟨?_, fun id => ?_⟩
              · cases outcome with
                | stored => exact ⟨calm.prompt, settled.matched.of_eq rfl rfl (by simp)⟩
                | completed =>
                    exact ⟨.of_stack [_] rfl calm (by simp),
                      settled.matched.of_eq rfl rfl (by simp)⟩
              · by_cases same : id = who
                · subst same
                  exact .inr (.direct offset data jetty _ calm existing outcome)
                · left
                  have apart : ¬ who = id := fun equal => same equal.symm
                  cases outcome <;> simp [same, apart]
      next => simp at taken
  | receive reply =>
      simp only [step] at taken
      split at taken
      next boundary =>
        have calm := settled.prompt.calm boundary
        obtain rfl := Option.some.inj taken
        have outcome := receive_outcome state reply
        exact ⟨⟨outcome.prompt calm, outcome.matched settled.matched⟩,
          fun id => outcome.acts _ id calm rfl⟩
      next => simp at taken
  | setLinkState port up =>
      simp only [step] at taken
      split at taken
      next boundary =>
        obtain rfl := Option.some.inj taken
        unfold setLinkState
        dsimp only
        split
        · exact ⟨settled, fun id => .inl rfl⟩
        · split
          · exact ⟨⟨settled.prompt, settled.matched.of_eq rfl rfl (by simp)⟩, fun id => .inl rfl⟩
          · exact ⟨⟨settled.prompt, settled.matched.of_eq rfl rfl (by simp)⟩, fun id => .inl rfl⟩
      next => simp at taken
  | getTp localEid remoteEid =>
      simp only [step] at taken
      split at taken
      next boundary =>
        obtain rfl := Option.some.inj taken
        unfold getTp
        dsimp only
        split
        · exact ⟨settled, fun id => .inl rfl⟩
        · split
          · exact ⟨⟨settled.prompt, settled.matched.of_eq rfl rfl (by simp)⟩, fun id => .inl rfl⟩
          · split <;>
              exact ⟨⟨settled.prompt, settled.matched.of_eq rfl rfl (by simp)⟩,
                fun id => .inl rfl⟩
      next => simp at taken
  | setTpActive tp active =>
      simp only [step] at taken
      split at taken
      next boundary =>
        obtain rfl := Option.some.inj taken
        unfold setTpActive
        split
        · exact ⟨settled, fun id => .inl rfl⟩
        · split
          · exact ⟨settled, fun id => .inl rfl⟩
          · exact ⟨⟨settled.prompt, settled.matched.of_eq rfl rfl (by simp)⟩, fun id => .inl rfl⟩
      next => simp at taken
  | removeTp tp =>
      simp only [step] at taken
      split at taken
      next boundary =>
        obtain rfl := Option.some.inj taken
        unfold removeTp
        split
        · exact ⟨settled, fun id => .inl rfl⟩
        · split
          · exact ⟨settled, fun id => .inl rfl⟩
          · exact ⟨⟨settled.prompt, settled.matched.of_eq rfl rfl (by simp)⟩, fun id => .inl rfl⟩
      next => simp at taken
  | createJetty who context =>
      simp only [step] at taken
      split at taken
      next boundary =>
        have calm := settled.prompt.calm boundary
        obtain rfl := Option.some.inj taken
        unfold createJetty
        split
        · exact ⟨settled, fun id => .inl rfl⟩
        next possible =>
          refine ⟨⟨calm.prompt, settled.matched.of_eq rfl rfl (by simp)⟩, fun id => ?_⟩
          by_cases same : id = who
          · subst same
            have missing : state.jetty id = none := by
              simp only [not_or, Bool.not_eq_true, Option.isSome_eq_false_iff,
                Option.isNone_iff_eq_none] at possible
              exact possible.1
            exact .inr (.created context _ calm (state.lane_jetty_none id missing)
              ⟨rfl, rfl, rfl, rfl, rfl⟩)
          · exact .inl (by simp [same])
      next => simp at taken

end Steps

section Runs

variable {config : Config} {guard : State → Event → State → Prop} {state : State}

theorem settled_of_reaches
    (reached : Reaches (step config) guard (State.initial config) state) : state.Settled :=
  reached.invariant (State.initial_settled config)
    fun _ _ _ settled taken _ => (step_acts settled taken).1

/-- A property of one lane that its actions preserve holds in every reached state. -/
theorem lane_of_reaches (id : Nat) (Good : Lane → Prop)
    (reached : Reaches (step config) guard (State.initial config) state)
    (initial : Good ((State.initial config).lane id))
    (preserved : ∀ before event after,
      Reaches (step config) guard (State.initial config) before → Good (before.lane id) →
      Acts config id before event after → step config before event = some after →
      guard before event after → Good (after.lane id)) :
    Good (state.lane id) := by
  refine reached.induction_on (fun state => Good (state.lane id)) initial ?_
  intro before event after earlier good taken allowed
  rcases (step_acts (settled_of_reaches earlier) taken).2 id with unchanged | acted
  · rwa [unchanged]
  · exact preserved before event after earlier good acted taken allowed

end Runs

end Udma.Sq
