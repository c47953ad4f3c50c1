import Udma.Sq.Owners
import Udma.Sq.Routes

/-!
# Quiescent states

When the host, the network and the peer owe the engine nothing, every fetch has
been given back and every entry has its status, as long as no TP route was
removed under a descriptor that waits for its payload.
-/

namespace Udma.Sq

open Udma.Abi Udma.Arithmetic Udma.Collections Udma.Transition

/-! ## Fetch holders -/

/-- The activations and callbacks that own `fetching`. -/
def Lane.holders (lane : Lane) : Nat :=
  tally Task.fetching lane.tasks + tally Callback.fetching lane.calls +
    tally Task.releasing lane.tasks

/-- A fetch that is marked as running has an owner. -/
def Lane.Held (lane : Lane) : Prop := lane.pipe.fetching = true → 0 < lane.holders

/-- The descriptor is whole and its TP has a route. -/
structure Found (routes : List TpRoute) (_linkUp : List Bool) (raw : Bytes) : Prop where
  long : wqebbBytes ≤ raw.length
  route : (findRoute routes (SqWqe.tpn raw)).isSome = true

theorem Ran.held {config : Config} {base after : State} {id : Nat} {task : Task}
    (ran : Ran config base id task after) (own : task.on id = true)
    (found : ∀ raw, task.payload = some raw → Found base.tpRoutes base.linkUp raw)
    (held : ((base.push [task]).lane id).Held) : (after.lane id).Held := by
  unfold Lane.Held Lane.holders at held ⊢
  cases ran with
  | absent task missing silent =>
      have blank := base.lane_jetty_none id missing
      simp [blank]
  | completeAbsent => simpa using held
  | processSq producer direct jetty _ existing outcome =>
      have same := base.lane_jetty id existing
      cases outcome <;> simpa [same] using held
  | resumeSq jetty _ existing outcome =>
      have same := base.lane_jetty id existing
      cases outcome <;> simpa [same] using held
  | processSqLoop producer jetty _ existing outcome =>
      have same := base.lane_jetty id existing
      simp [same] at held
      cases outcome with
      | direct =>
          simp
      | _ => simpa using held
  | fillSqCache producer targetProducer jetty _ existing outcome =>
      have same := base.lane_jetty id existing
      cases outcome <;> simpa [same] using held
  | executeSqHead producer targetProducer jetty _ existing outcome =>
      have same := base.lane_jetty id existing
      simp [same] at held
      cases outcome with
      | handed | oversized =>
          simp
      | _ => simpa [same] using held
  | continueLast =>
      simp
  | continueRead =>
      simp
  | handleSqWqe raw jetty _ existing outcome =>
      have same := base.lane_jetty id existing
      cases outcome with
      | failed => simp [Jetty.fail, Jetty.release]
      | released => simp [Jetty.release]
      | read =>
          simp [reserveSq, SqPipeline.reserve]
      | prepared =>
          simp [prepareWrite, reserveSq, SqPipeline.reserve]
      | rejected =>
          simp [rejectSend, reserveSq, SqPipeline.reserve]
      | inlined =>
          simp
      | reading =>
          simp
  | drainPreparedWrites jetty _ existing outcome =>
      have same := base.lane_jetty id existing
      cases outcome <;> simpa [same] using held
  | submitSqPayload raw payload reserved jetty _ existing outcome =>
      have same := base.lane_jetty id existing
      cases outcome with
      | released => simp [Jetty.release]
      | lost _ reason =>
          obtain ⟨long, route⟩ := found raw rfl
          rcases reason with short | missing
          · omega
          · simp [missing] at route
      | freshSend =>
          simp [reserveSq, SqPipeline.reserve]
      | freshWrite =>
          simp [reserveSq, SqPipeline.reserve]
      | heldSend => simpa [same] using held
      | heldWrite => simpa [same] using held
  | releaseSqFetch jetty existing => simp [Jetty.release]
  | completeSq request status substatus jetty _ existing outcome =>
      have same := base.lane_jetty id existing
      cases outcome <;> simpa [same] using held
  | retireSq jetty _ existing outcome =>
      have same := base.lane_jetty id existing
      cases outcome with
      | skipped => simpa [same] using held
      | entered =>
          unfold retireLoop
          split <;> simpa [same] using held
  | retireSqLoop jetty _ existing outcome =>
      have same := base.lane_jetty id existing
      cases outcome with
      | stopped => simpa [same] using held
      | published =>
          unfold publishSq
          split <;> simpa [same] using held
  | retireSqPipelinedLoop jetty _ existing outcome =>
      have same := base.lane_jetty id existing
      cases outcome with
      | stopped => simpa [same] using held
      | published =>
          unfold publishSq
          split <;> simpa [same] using held
  | finishKept => simpa using held
  | finishPopped entry jetty existing =>
      have same := base.lane_jetty id existing
      simpa [same, SqPipeline.pop] using held
  | finishSqPipelined entry ok jetty _ existing outcome =>
      have same := base.lane_jetty id existing
      cases outcome with
      | broken => simpa [same] using held
      | retired => simpa [same, SqPipeline.retire] using held

theorem Called.held {config : Config} {base after : State} {ok : Bool} {bytes : Bytes}
    {id : Nat} {callback : Callback}
    (called : Called config base ok bytes id callback after)
    (held : Lane.Held { base.lane id with calls := callback :: (base.lane id).calls }) :
    (after.lane id).Held := by
  unfold Lane.Held Lane.holders at held ⊢
  cases called with
  | absent callback missing =>
      have blank := base.lane_jetty_none id missing
      simp [blank]
  | prefetch start count jetty _ existing outcome =>
      have same := base.lane_jetty id existing
      cases outcome <;> simpa [same, SqPipeline.prefetched] using held
  | continuation raw remaining nextSlot contiguous jetty _ existing outcome =>
      cases outcome with
      | failed => simp [Jetty.fail, Jetty.release]
      | arrived =>
          simp
  | writePayload position expected jetty existing =>
      have same := base.lane_jetty id existing
      simpa [same] using held
  | sendPayload raw expected jetty _ existing outcome =>
      cases outcome with
      | failed => simp [Jetty.fail, Jetty.release]
      | arrived =>
          simp
  | sendFailed request requestId bad =>
      split
      · simpa [State.lane] using held
      · simpa using held
  | writeSent => simpa using held
  | sendDone => simpa using held
  | cqe => split <;> simpa using held

theorem Acts.held {config : Config} {id : Nat} {state after : State} {event : Event}
    (acts : Acts config id state event after)
    (found : ∀ raw ∈ (state.lane id).payloads, Found state.tpRoutes state.linkUp raw)
    (held : (state.lane id).Held) : (after.lane id).Held := by
  cases acts with
  | task base task _ before own calm ran =>
      subst before
      refine ran.held own ?_ held
      intro raw payload
      refine found raw ?_
      unfold Lane.payloads
      rw [State.lane_push, List.filter_cons_of_pos own, gather_append, gather_cons, payload]
      simp
  | callback index ok bytes callback calls base _ own calm before chosen order called =>
      refine called.held ?_
      rw [before, State.lane_holding] at held
      unfold Lane.Held Lane.holders at held ⊢
      have same := order.filter (Callback.on id)
      rw [List.filter_cons_of_pos own] at same
      dsimp only at held
      rw [tally_perm same] at held
      exact held
  | progressed _ _ pending progress earlier later observed calm _ owner request silent lane =>
      rw [lane]
      exact held
  | finished _ _ pending earlier later status calm _ lane =>
      rw [lane]
      unfold Lane.Held Lane.holders at held ⊢
      simpa using held
  | doorbell producer calm =>
      unfold Lane.Held Lane.holders at held ⊢
      simpa using held
  | direct offset data jetty _ calm existing outcome =>
      have same := state.lane_jetty id existing
      unfold Lane.Held Lane.holders at held ⊢
      cases outcome <;> simpa [same, Jetty.pipe] using held
  | created context jetty calm missing fresh =>
      rw [State.lane_setJetty]
      simp [Lane.Held, fresh.pipe]

/-! ## Runs -/

/-- The remove command on that TP is not refused. -/
def State.removable (state : State) (tpn : Nat) : Bool :=
  match findRoute state.tpRoutes tpn with
  | none => false
  | some route => !route.active && state.pendingRma.isEmpty

/-- The guest stays in the window, and no TP is removed under a descriptor of the Jetty
that waits for its payload. -/
def Retained (id : Nat) (before : State) (event : Event) (after : State) : Prop :=
  after.Windowed id ∧
    match event with
    | .removeTp tpn => before.removable tpn = true →
        ∀ raw ∈ (before.lane id).payloads, SqWqe.tpn raw ≠ tpn
    | _ => True

instance (id : Nat) (before : State) (event : Event) (after : State) :
    Decidable (Retained id before event after) := by
  unfold Retained
  rcases event with _ | _ <;> infer_instance

theorem Checked.found {routes : List TpRoute} {linkUp : List Bool} {raw : Bytes}
    (checked : Checked routes linkUp raw) : Found routes linkUp raw := by
  obtain ⟨long, route, found, _⟩ := checked
  exact ⟨long, by simp [found]⟩

theorem RouteOutcome.found {id : Nat} {state after : State} {event : Event}
    (outcome : RouteOutcome state event after) (kept : Retained id state event after)
    {raw : Bytes} (waiting : raw ∈ (state.lane id).payloads)
    (found : Found state.tpRoutes state.linkUp raw) :
    Found after.tpRoutes after.linkUp raw := by
  obtain ⟨long, some⟩ := found
  refine ⟨long, ?_⟩
  cases outcome with
  | raised port => exact some
  | lowered port =>
      dsimp only
      rw [findRoute_map (fun route => route.rebind_id _ _)]
      simpa using some
  | added localEid remoteEid nextId nextPort route fresh =>
      obtain ⟨known, hit⟩ := Option.isSome_iff_exists.mp some
      simp [findRoute_append hit]
  | switched tpn active =>
      dsimp only
      rw [findRoute_map (by intro other; split <;> rfl)]
      simpa using some
  | removed tpn route hit inactive idle =>
      have removable : state.removable tpn = true := by
        simp [State.removable, hit, inactive, idle]
      dsimp only
      rwa [findRoute_filter (kept.2 removable raw waiting)]

section Runs

variable {config : Config} {id : Nat} {state : State}

theorem found_of_reaches
    (reached : Reaches (step config) (Retained id) (State.initial config) state) :
    ∀ raw ∈ (state.lane id).payloads, Found state.tpRoutes state.linkUp raw :=
  payloads_of_reaches id Found (fun _ _ _ checked => checked.found)
    (fun _ _ _ _ outcome kept membership found => outcome.found kept membership found) reached

theorem held_of_reaches
    (reached : Reaches (step config) (Retained id) (State.initial config) state) :
    (state.lane id).Held := by
  refine lane_of_reaches id Lane.Held reached ?_ ?_
  · rw [State.initial_lane]
    simp [Lane.Held]
  · intro before event after earlier held acts _ _
    exact acts.held (found_of_reaches earlier) held

/-- `SubmitSqPayload` finds the route of every WRITE that has an entry. -/
theorem careful_of_reaches
    (reached : Reaches (step config) (Retained id) (State.initial config) state)
    (event : Event) : state.lossy id event = false := by
  have found := found_of_reaches reached
  unfold State.lossy
  split
  next =>
    split
    next other raw payload reserved rest top =>
      by_cases own : other = id
      · subst own
        have waiting : raw ∈ (state.lane other).payloads := by
          simp [Lane.payloads, State.lane, top]
        obtain ⟨long, route⟩ := found raw waiting
        have present := Option.isNone_eq_false_iff.mpr route
        simp [present]
        omega
      · simp [own]
    next => rfl
  next => rfl

end Runs

/-- The callback is held by the completion engine. -/
def Callback.reporting : Callback → Bool
  | .cqe _ _ => true
  | _ => false

/-- The host, the network and the peer owe the engine nothing; the completion engine may
still hold CQEs. -/
structure State.Quiet (state : State) : Prop where
  returned : state.stack = []
  answered : ∀ callback ∈ state.outstanding, callback.reporting = true
  settled : state.pendingRma = []

instance (state : State) : Decidable state.Quiet :=
  decidable_of_iff
    (state.stack = [] ∧ (∀ callback ∈ state.outstanding, callback.reporting = true) ∧
      state.pendingRma = [])
    ⟨fun ⟨returned, answered, settled⟩ => ⟨returned, answered, settled⟩,
      fun ⟨returned, answered, settled⟩ => ⟨returned, answered, settled⟩⟩

namespace State.Quiet

variable {state : State} (quiet : state.Quiet) (id : Nat)
include quiet

theorem tasks : (state.lane id).tasks = [] := by
  simp [State.lane, quiet.returned]

theorem pending : (state.lane id).pending = [] := by
  simp [State.lane, quiet.settled]

theorem calls {callback : Callback} (held : callback ∈ (state.lane id).calls) :
    ∃ who entry, callback = .cqe who entry := by
  have reporting := quiet.answered callback (List.mem_of_mem_filter held)
  cases callback with
  | cqe who entry => exact ⟨who, entry, rfl⟩
  | _ => simp [Callback.reporting] at reporting

theorem tally_calls : tally Callback.fetching (state.lane id).calls = 0 := by
  by_contra positive
  obtain ⟨callback, held, fetching⟩ := exists_of_tally_pos (Nat.pos_of_ne_zero positive)
  obtain ⟨who, entry, rfl⟩ := quiet.calls id held
  simp at fetching

theorem reads : gather Callback.payloadRead (state.lane id).calls = [] := by
  rw [gather_eq_nil]
  intro callback held
  obtain ⟨who, entry, rfl⟩ := quiet.calls id held
  rfl

/-- The front of the queue would be drained, and an entry behind it would await a read. -/
theorem drained (sound : (state.lane id).staging.Sound) :
    (state.lane id).pipe.preparedWrites = [] := by
  cases queue : (state.lane id).pipe.preparedWrites with
  | nil => rfl
  | cons front rest =>
      have first : front ∈ (state.lane id).staging.queue.head? := congrArg List.head? queue
      cases ready : front.ready with
      | true =>
          have driven := sound.driven front first ready
          simp [Lane.staging, quiet.tasks id] at driven
      | false =>
          obtain ⟨read, outstanding, _⟩ := sound.waiting front (List.mem_of_mem_head? first) ready
          simp [Lane.staging, quiet.reads id] at outstanding

theorem owners (sound : (state.lane id).staging.Sound) :
    (state.lane id).ledger.owners = 0 := by
  rw [Multiset.eq_zero_iff_forall_notMem]
  intro request owner
  simp only [Lane.ledger, quiet.tasks id, quiet.pending id, quiet.drained id sound, bag_nil,
    zero_add, add_zero] at owner
  obtain ⟨callback, held, owns⟩ := mem_bag.mp owner
  obtain ⟨who, entry, rfl⟩ := quiet.calls id held
  simp at owns

end State.Quiet

/-- No fetch is left and every entry has its status. -/
structure Terminated (jetty : Jetty) : Prop where
  released : jetty.pipe.fetching = false
  completed : ∀ entry ∈ jetty.pipe.completions, entry.ready = true

theorem quiet_jetty_terminated {config : Config} {id : Nat} {state : State}
    (reached : Reaches (step config) (Retained id) (State.initial config) state)
    (quiet : state.Quiet) {jetty : Jetty} (existing : state.jetty id = some jetty) :
    Terminated jetty := by
  obtain rfl := state.lane_jetty id existing
  have sound := staged_of_reaches reached id
  have covered := covered_of_reaches id (fun _ _ _ allowed => allowed.1)
    (fun _ event _ earlier _ => careful_of_reaches earlier event) reached
  refine ⟨?_, ?_⟩
  · cases fetching : (state.lane id).jetty.pipe.fetching with
    | false => rfl
    | true =>
        have held := held_of_reaches reached fetching
        simp [Lane.holders, quiet.tasks id, quiet.tally_calls id] at held
  · intro entry membership
    cases ready : entry.ready with
    | true => rfl
    | false =>
        have owner := covered entry membership ready
        simp [quiet.owners id sound] at owner

/-- The TP of a WRITE is deactivated during the payload read and removed after the reply;
the CQE of the WRITE is still under way. -/
theorem quiet_jetty_terminated_with_cqe :
    ∃ state jetty, Reaches (step (.small false)) (Retained 9) (State.initial (.small false)) state ∧
      state.Quiet ∧ state.jetty 9 = some jetty ∧ jetty.pipe.completions.length = 1 ∧
      Terminated jetty := by
  let write := SqWqe.image true 0 0x20 3 1 0x8000 ⟨4, 0, 0x8000⟩
  let events : List Event := opening 9 3 ++ [.doorbell 9 1] ++ runs 7 ++
    [.fire 0 true write] ++ runs 10 ++ [.setTpActive 1 false, .fire 0 true [1, 2, 3, 4]] ++
    runs 7 ++ [.receive { operation := .writeAck, requestId := 1, transferLength := 4 }] ++
    runs 5 ++ [.fire 0 true [], .removeTp 1]
  obtain ⟨state, reached, seen⟩ := exists_of_execute
    (show (execute (step (.small false)) (Retained 9) events (State.initial (.small false))).map
      (fun state => (decide state.Quiet,
        (state.jetty 9).map fun jetty => jetty.pipe.completions.length)) =
          some (true, some 1) by decide +kernel)
  obtain ⟨quiet, entries⟩ := Prod.mk.injEq .. |>.mp seen
  obtain ⟨jetty, existing, one⟩ := Option.map_eq_some_iff.mp entries
  have settled := of_decide_eq_true quiet
  exact ⟨state, jetty, reached, settled, existing, one,
    quiet_jetty_terminated reached settled existing⟩

/-- The TP of a WRITE is deactivated and removed during the payload read: its entry stays
open. -/
theorem removed_route_leaves_entry_open :
    ¬ ∀ (state : State) (jetty : Jetty),
      Reaches (step (.small false)) (InWindow 9) (State.initial (.small false)) state →
      state.Quiet → state.jetty 9 = some jetty → Terminated jetty := by
  intro terminated
  let write := SqWqe.image true 0 0x20 3 1 0x8000 ⟨4, 0, 0x8000⟩
  let events : List Event := opening 9 3 ++ [.doorbell 9 1] ++ runs 7 ++
    [.fire 0 true write] ++ runs 10 ++
    [.setTpActive 1 false, .removeTp 1, .fire 0 true [1, 2, 3, 4]] ++ runs 6
  obtain ⟨state, reached, seen⟩ := exists_of_execute
    (show (execute (step (.small false)) (InWindow 9) events (State.initial (.small false))).map
      (fun state => (decide state.Quiet,
        (state.jetty 9).map fun jetty => jetty.pipe.completions.all (·.ready))) =
          some (true, some false) by decide +kernel)
  obtain ⟨quiet, entries⟩ := Prod.mk.injEq .. |>.mp seen
  obtain ⟨jetty, existing, unready⟩ := Option.map_eq_some_iff.mp entries
  have completed := (terminated state jetty reached (of_decide_eq_true quiet) existing).completed
  rw [List.all_eq_true.mpr completed] at unready
  exact Bool.noConfusion unready

end Udma.Sq
