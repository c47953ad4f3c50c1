import Udma.Sq.Lock

/-!
# TP routes under payloads in flight

A SEND or WRITE passes the route check when it is decoded, and its frame is built
when its payload has arrived.  In between the descriptor waits in a payload
callback, in the queue of prepared WRITEs or in an activation of
`SubmitSqPayload`.  Only the TP commands and the link state change the routes, so
what holds of the route of every waiting descriptor is decided by these.
-/

namespace Udma.Sq

open Udma.Abi Udma.Arithmetic Udma.Collections Udma.Transition

def Task.payload : Task → Option Bytes
  | .submitSqPayload _ raw _ _ => some raw
  | _ => none

def Callback.payload : Callback → Option Bytes
  | .sendPayload _ raw _ => some raw
  | _ => none

attribute [simp] Task.payload Callback.payload

/-- The descriptors between their route check and their frame. -/
def Lane.payloads (lane : Lane) : List Bytes :=
  gather Task.payload lane.tasks ++
    (gather Callback.payload lane.calls ++ lane.pipe.preparedWrites.map PreparedWrite.raw)

/-- What the route check of `HandleSqWqe` establishes. -/
structure Checked (routes : List TpRoute) (linkUp : List Bool) (raw : Bytes) : Prop where
  long : wqebbBytes ≤ raw.length
  served : ∃ route, findRoute routes (SqWqe.tpn raw) = some route ∧ routeUp linkUp route = true

theorem Admitted.checked {config : Config} {state : State} {jetty : Jetty} {raw : Bytes}
    {route : TpRoute} (admitted : Admitted config state jetty raw route) :
    Checked state.tpRoutes state.linkUp raw :=
  ⟨admitted.long, route, admitted.found, admitted.up⟩

/-! ## Payloads along a step -/

theorem Ran.payloads {config : Config} {base after : State} {id : Nat} {task : Task}
    (ran : Ran config base id task after) {raw : Bytes}
    (waiting : raw ∈ (after.lane id).payloads) :
    raw ∈ ((base.push [task]).lane id).payloads ∨ Checked base.tpRoutes base.linkUp raw := by
  unfold Lane.payloads at waiting ⊢
  cases ran with
  | absent task missing silent =>
      left
      simp only [State.lane_push, gather_append, List.mem_append] at waiting ⊢
      tauto
  | completeAbsent => exact .inl (by simpa using waiting)
  | processSq producer direct jetty _ existing outcome =>
      have same := base.lane_jetty id existing
      cases outcome <;> exact .inl (by simpa [same] using waiting)
  | resumeSq jetty _ existing outcome =>
      have same := base.lane_jetty id existing
      cases outcome <;> exact .inl (by simpa [same] using waiting)
  | processSqLoop producer jetty _ existing outcome =>
      have same := base.lane_jetty id existing
      cases outcome <;> exact .inl (by simpa [same] using waiting)
  | fillSqCache producer targetProducer jetty _ existing outcome =>
      have same := base.lane_jetty id existing
      cases outcome <;> exact .inl (by simpa [same] using waiting)
  | executeSqHead producer targetProducer jetty _ existing outcome =>
      have same := base.lane_jetty id existing
      cases outcome <;> exact .inl (by simpa [same] using waiting)
  | continueLast => exact .inl (by simpa using waiting)
  | continueRead => exact .inl (by simpa using waiting)
  | handleSqWqe other jetty _ existing outcome =>
      have same := base.lane_jetty id existing
      cases outcome with
      | failed => exact .inl (by simpa [same, Jetty.fail, Jetty.release] using waiting)
      | released => exact .inl (by simpa [same, Jetty.release] using waiting)
      | read => exact .inl (by simpa [same, reserveSq, SqPipeline.reserve] using waiting)
      | rejected =>
          exact .inl (by simpa [same, rejectSend, reserveSq, SqPipeline.reserve] using waiting)
      | prepared route admitted opcode =>
          simp [prepareWrite, reserveSq, SqPipeline.reserve] at waiting
          rcases waiting with old | old | old | rfl
          · left
            simp [old]
          · left
            simp [old]
          · left
            simp [same, old]
          · exact .inr admitted.checked
      | inlined route payload admitted alone =>
          simp [same, alone] at waiting
          rcases waiting with rfl | old | old
          · exact .inr admitted.checked
          · left
            simp [old]
          · left
            simp [old]
      | reading route observation expected admitted alone observed =>
          simp [same, alone] at waiting
          rcases waiting with old | old | rfl
          · left
            simp [old]
          · left
            simp [old]
          · exact .inr admitted.checked
  | drainPreparedWrites jetty _ existing outcome =>
      have same := base.lane_jetty id existing
      left
      cases outcome with
      | resumed => simpa [same] using waiting
      | failed front rest queue ready broken =>
          simp [same, queue] at waiting ⊢
          tauto
      | submitted front rest queue ready intact =>
          simp [same, queue] at waiting ⊢
          tauto
  | submitSqPayload other payload reserved jetty _ existing outcome =>
      have same := base.lane_jetty id existing
      left
      cases outcome with
      | released =>
          simp [Jetty.release] at waiting
          simp [same]
          tauto
      | lost =>
          simp [same] at waiting ⊢
          tauto
      | freshSend | freshWrite =>
          simp [reserveSq, SqPipeline.reserve] at waiting
          simp [same]
          tauto
      | heldSend | heldWrite =>
          simp [same] at waiting ⊢
          tauto
  | releaseSqFetch jetty existing =>
      have same := base.lane_jetty id existing
      exact .inl (by simpa [same, Jetty.release] using waiting)
  | completeSq request status substatus jetty _ existing outcome =>
      have same := base.lane_jetty id existing
      cases outcome <;> exact .inl (by simpa [same] using waiting)
  | retireSq jetty _ existing outcome =>
      have same := base.lane_jetty id existing
      cases outcome with
      | skipped => exact .inl (by simpa [same] using waiting)
      | entered =>
          unfold retireLoop at waiting
          split at waiting <;> exact .inl (by simpa [same] using waiting)
  | retireSqLoop jetty _ existing outcome =>
      have same := base.lane_jetty id existing
      cases outcome with
      | stopped => exact .inl (by simpa [same] using waiting)
      | published =>
          unfold publishSq at waiting
          split at waiting <;> exact .inl (by simpa [same] using waiting)
  | retireSqPipelinedLoop jetty _ existing outcome =>
      have same := base.lane_jetty id existing
      cases outcome with
      | stopped => exact .inl (by simpa [same] using waiting)
      | published =>
          unfold publishSq at waiting
          split at waiting <;> exact .inl (by simpa [same] using waiting)
  | finishKept => exact .inl (by simpa using waiting)
  | finishPopped entry jetty existing =>
      have same := base.lane_jetty id existing
      exact .inl (by simpa [same, SqPipeline.pop] using waiting)
  | finishSqPipelined entry ok jetty _ existing outcome =>
      have same := base.lane_jetty id existing
      cases outcome with
      | broken => exact .inl (by simpa [same] using waiting)
      | retired => exact .inl (by simpa [same, SqPipeline.retire] using waiting)

theorem Called.payloads {config : Config} {base after : State} {ok : Bool} {bytes : Bytes}
    {id : Nat} {callback : Callback}
    (called : Called config base ok bytes id callback after) {raw : Bytes}
    (waiting : raw ∈ (after.lane id).payloads) :
    raw ∈ Lane.payloads { base.lane id with calls := callback :: (base.lane id).calls } := by
  unfold Lane.payloads at waiting ⊢
  cases called with
  | absent callback missing =>
      simp only [gather_cons, List.mem_append] at waiting ⊢
      tauto
  | prefetch start count jetty _ existing outcome =>
      have same := base.lane_jetty id existing
      cases outcome <;> simpa [same, SqPipeline.prefetched] using waiting
  | continuation other remaining nextSlot contiguous jetty _ existing outcome =>
      have same := base.lane_jetty id existing
      cases outcome with
      | failed => simpa [same, Jetty.fail, Jetty.release] using waiting
      | arrived => simpa [same] using waiting
  | writePayload position expected jetty existing =>
      have same := base.lane_jetty id existing
      have raws : (jetty.pipe.preparedWrites.map fun prepared =>
          if prepared.request.position = position then prepared.arrive expected ok bytes
          else prepared).map PreparedWrite.raw =
          jetty.pipe.preparedWrites.map PreparedWrite.raw := by
        rw [List.map_map]
        apply List.map_congr_left
        intro prepared _
        simp only [Function.comp_apply, PreparedWrite.arrive]
        split
        · split <;> rfl
        · rfl
      simp only [State.lane_push, State.lane_setJetty, Lane.pipe, Jetty.pipe_mk, raws] at waiting
      simpa [same] using waiting
  | sendPayload other expected jetty _ existing outcome =>
      have same := base.lane_jetty id existing
      cases outcome with
      | failed =>
          simp [Jetty.fail, Jetty.release] at waiting
          simp [same]
          tauto
      | arrived =>
          simp [same] at waiting ⊢
          tauto
  | sendFailed request requestId bad =>
      split at waiting
      · simpa [State.lane] using waiting
      · simpa using waiting
  | writeSent => simpa using waiting
  | sendDone => simpa using waiting
  | cqe => split at waiting <;> simpa using waiting

theorem Acts.payloads {config : Config} {id : Nat} {state after : State} {event : Event}
    (acts : Acts config id state event after) {raw : Bytes}
    (waiting : raw ∈ (after.lane id).payloads) :
    raw ∈ (state.lane id).payloads ∨ Checked state.tpRoutes state.linkUp raw := by
  cases acts with
  | task base task _ before own calm ran =>
      subst before
      exact ran.payloads waiting
  | callback index ok bytes callback calls base _ own calm before chosen held called =>
      left
      have kept := called.payloads waiting
      have order := held.filter (Callback.on id)
      rw [List.filter_cons_of_pos own] at order
      rw [before, State.lane_holding]
      unfold Lane.payloads at kept ⊢
      simp only [List.mem_append] at kept ⊢
      exact kept.imp_right (Or.imp_left fun known => (gather_perm order).symm.subset known)
  | progressed _ _ pending progress earlier later observed calm held owner request silent lane =>
      rw [lane] at waiting
      exact .inl waiting
  | finished _ _ pending earlier later status calm held lane =>
      rw [lane] at waiting
      left
      unfold Lane.payloads at waiting ⊢
      simpa using waiting
  | doorbell producer calm =>
      left
      unfold Lane.payloads at waiting ⊢
      simpa using waiting
  | direct offset data jetty _ calm existing outcome =>
      have same := state.lane_jetty id existing
      left
      unfold Lane.payloads at waiting ⊢
      cases outcome <;> simpa [same, Jetty.pipe] using waiting
  | created context jetty calm missing fresh =>
      left
      rw [State.lane_setJetty] at waiting
      unfold Lane.payloads at waiting ⊢
      simpa [missing, fresh.pipe] using waiting

/-! ## Routes along a step -/

/-- The routes and links are the same in both states. -/
def State.SameRoutes (before after : State) : Prop :=
  after.tpRoutes = before.tpRoutes ∧ after.linkUp = before.linkUp

theorem Ran.sameRoutes {config : Config} {base after : State} {id : Nat} {task : Task}
    (ran : Ran config base id task after) : base.SameRoutes after := by
  cases ran with
  | absent | finishKept | completeAbsent | continueLast | continueRead | releaseSqFetch
  | finishPopped => exact ⟨rfl, rfl⟩
  | processSq producer direct jetty _ existing outcome => cases outcome <;> exact ⟨rfl, rfl⟩
  | resumeSq jetty _ existing outcome => cases outcome <;> exact ⟨rfl, rfl⟩
  | processSqLoop producer jetty _ existing outcome => cases outcome <;> exact ⟨rfl, rfl⟩
  | fillSqCache producer targetProducer jetty _ existing outcome =>
      cases outcome <;> exact ⟨rfl, rfl⟩
  | executeSqHead producer targetProducer jetty _ existing outcome =>
      cases outcome <;> exact ⟨rfl, rfl⟩
  | handleSqWqe raw jetty _ existing outcome => cases outcome <;> exact ⟨rfl, rfl⟩
  | drainPreparedWrites jetty _ existing outcome => cases outcome <;> exact ⟨rfl, rfl⟩
  | submitSqPayload raw payload reserved jetty _ existing outcome =>
      cases outcome <;> exact ⟨rfl, rfl⟩
  | completeSq request status substatus jetty _ existing outcome =>
      cases outcome <;> exact ⟨rfl, rfl⟩
  | retireSq jetty _ existing outcome => cases outcome <;> exact ⟨rfl, rfl⟩
  | retireSqLoop jetty _ existing outcome =>
      cases outcome with
      | stopped => exact ⟨rfl, rfl⟩
      | published =>
          unfold publishSq
          split <;> exact ⟨rfl, rfl⟩
  | retireSqPipelinedLoop jetty _ existing outcome =>
      cases outcome with
      | stopped => exact ⟨rfl, rfl⟩
      | published =>
          unfold publishSq
          split <;> exact ⟨rfl, rfl⟩
  | finishSqPipelined entry ok jetty _ existing outcome => cases outcome <;> exact ⟨rfl, rfl⟩

theorem Called.sameRoutes {config : Config} {base after : State} {ok : Bool} {bytes : Bytes}
    {id : Nat} {callback : Callback}
    (called : Called config base ok bytes id callback after) : base.SameRoutes after := by
  cases called with
  | absent | writePayload | writeSent | sendDone | cqe => exact ⟨rfl, rfl⟩
  | prefetch start count jetty _ existing outcome => cases outcome <;> exact ⟨rfl, rfl⟩
  | continuation raw remaining nextSlot contiguous jetty _ existing outcome =>
      cases outcome <;> exact ⟨rfl, rfl⟩
  | sendPayload raw expected jetty _ existing outcome => cases outcome <;> exact ⟨rfl, rfl⟩
  | sendFailed =>
      split <;> exact ⟨rfl, rfl⟩

theorem PendingOutcome.sameRoutes {base after : State} (outcome : PendingOutcome base after) :
    base.SameRoutes after := by
  cases outcome <;> exact ⟨rfl, rfl⟩

/-- Every step keeps the routes or is one of these. -/
theorem step_routes {config : Config} {state next : State} {event : Event}
    (taken : step config state event = some next) :
    state.SameRoutes next ∨ RouteOutcome state event next := by
  cases step_stepped taken with
  | ran task rest who _ top own ran => exact .inl ran.sameRoutes
  | called index ok bytes callback who _ chosen own called => exact .inl called.sameRoutes
  | answered index ok bytes callback _ chosen outcome => exact .inl outcome.sameRoutes
  | received reply _ outcome => exact .inl outcome.sameRoutes
  | direct who offset data jetty _ existing outcome => cases outcome <;> exact .inl ⟨rfl, rfl⟩
  | routed event _ outcome => exact .inr outcome
  | _ => exact .inl ⟨rfl, rfl⟩

/-! ## Live routes -/

/-- The frame names a route that exists, is active and whose link is up. -/
def State.LiveRoute (state : State) (frame : Frame) : Prop :=
  ∃ route, findRoute state.tpRoutes frame.tpn = some route ∧ route.active = true ∧
    state.linkUp.getD route.port false = true ∧ frame.sourcePort = route.port % 2 ^ 16

instance (state : State) (frame : Frame) : Decidable (state.LiveRoute frame) :=
  match found : findRoute state.tpRoutes frame.tpn with
  | none => .isFalse (by rintro ⟨route, same, _⟩; simp [found] at same)
  | some route =>
      if live : route.active = true ∧ state.linkUp.getD route.port false = true ∧
          frame.sourcePort = route.port % 2 ^ 16 then .isTrue ⟨route, found, live⟩
      else .isFalse (by
        rintro ⟨other, same, rest⟩
        rw [found, Option.some.injEq] at same
        exact live (same ▸ rest))

/-- Some descriptor of that TP waits for its frame. -/
def State.Carries (state : State) (tpn : Nat) : Prop :=
  ∃ id, ∃ raw ∈ (state.lane id).payloads, SqWqe.tpn raw = tpn

/-- No TP is deactivated under a waiting descriptor, and a link under one goes down
only while another link is up. -/
def RouteKept (before : State) (event : Event) (_after : State) : Prop :=
  match event with
  | .setTpActive tpn false => ¬ before.Carries tpn
  | .setLinkState port false =>
      (before.linkUp.set port false).any (fun up => up) = true ∨
        ∀ route ∈ before.tpRoutes, route.port = port → ¬ before.Carries route.id
  | _ => True

theorem findRoute_map {routes : List TpRoute} {change : TpRoute → TpRoute}
    (numbers : ∀ route, (change route).id = route.id) (tpn : Nat) :
    findRoute (routes.map change) tpn = (findRoute routes tpn).map change := by
  unfold findRoute
  rw [List.find?_map]
  congr 2
  funext route
  simp [numbers route]

theorem findRoute_id {routes : List TpRoute} {tpn : Nat} {route : TpRoute}
    (found : findRoute routes tpn = some route) : route.id = tpn := by
  simpa using List.find?_some found

theorem findRoute_mem {routes : List TpRoute} {tpn : Nat} {route : TpRoute}
    (found : findRoute routes tpn = some route) : route ∈ routes :=
  List.mem_of_find?_eq_some found

theorem findRoute_append {routes : List TpRoute} {tpn : Nat} {route : TpRoute}
    (found : findRoute routes tpn = some route) (added : List TpRoute) :
    findRoute (routes ++ added) tpn = some route := by
  unfold findRoute at found ⊢
  rw [List.find?_append, found]
  rfl

theorem findRoute_filter {routes : List TpRoute} {tpn other : Nat} (different : tpn ≠ other) :
    findRoute (routes.filter fun route => !(route.id == other)) tpn = findRoute routes tpn := by
  unfold findRoute
  rw [List.find?_filter]
  congr 1
  funext route
  by_cases same : route.id = tpn
  · simp [same, different]
  · simp [same]

theorem TpRoute.rebind_id (linkUp : List Bool) (port : Nat) (route : TpRoute) :
    (route.rebind linkUp port).id = route.id := by
  unfold rebind
  split
  · rfl
  · split <;> rfl

/-- A route stays up when its link goes down while another one is up. -/
theorem TpRoute.rebind_up {linkUp : List Bool} {port : Nat} {route : TpRoute}
    (up : routeUp linkUp route = true)
    (other : route.port = port → (linkUp.set port false).any (fun up => up) = true) :
    routeUp (linkUp.set port false) (route.rebind (linkUp.set port false) port) = true := by
  simp only [routeUp, Bool.and_eq_true] at up ⊢
  unfold rebind
  split
  next elsewhere =>
    refine ⟨up.1, ?_⟩
    have apart : ¬ port = route.port := fun same => elsewhere same.symm
    simpa [List.getD_eq_getElem?_getD, List.getElem?_set_ne apart] using up.2
  next here =>
    split
    next candidate found =>
      obtain ⟨inside, live, _⟩ := List.findIdx?_eq_some_iff_getElem.mp found
      refine ⟨up.1, ?_⟩
      simp only [List.getD_eq_getElem?_getD, List.getElem?_eq_getElem inside, Option.getD_some]
      exact live
    next none =>
      have some := other (by simpa using here)
      rw [List.findIdx?_eq_none_iff] at none
      obtain ⟨up, membership, live⟩ := List.any_eq_true.mp some
      exact absurd live (Bool.eq_false_iff.mp (none up membership))

/-- The waiting descriptors keep the route that was checked. -/
theorem RouteOutcome.checked {state after : State} {event : Event}
    (outcome : RouteOutcome state event after) (kept : RouteKept state event after)
    {raw : Bytes} (carried : state.Carries (SqWqe.tpn raw))
    (checked : Checked state.tpRoutes state.linkUp raw) :
    Checked after.tpRoutes after.linkUp raw := by
  obtain ⟨long, route, found, up⟩ := checked
  refine ⟨long, ?_⟩
  cases outcome with
  | raised port =>
      refine ⟨route, found, ?_⟩
      simp only [routeUp, Bool.and_eq_true] at up ⊢
      refine ⟨up.1, ?_⟩
      simp only [List.getD_eq_getElem?_getD, List.getElem?_set] at up ⊢
      split
      · split
        · rfl
        next same outside =>
          rw [List.getElem?_eq_none (by omega)] at up
          simp at up
      · exact up.2
  | lowered port =>
      refine ⟨route.rebind (state.linkUp.set port false) port, ?_, ?_⟩
      · dsimp only
        rw [findRoute_map (fun route => route.rebind_id _ _), found]
        rfl
      · refine TpRoute.rebind_up up ?_
        intro under
        rcases kept with another | unused
        · exact another
        · have := unused route (findRoute_mem found) under
          rw [findRoute_id found] at this
          exact absurd carried this
  | added localEid remoteEid nextId nextPort added fresh =>
      exact ⟨route, findRoute_append found _, up⟩
  | switched tpn active =>
      have numbers : ∀ other : TpRoute,
          (if other.id = tpn then { other with active := active } else other).id = other.id := by
        intro other
        split <;> rfl
      refine ⟨_, by dsimp only; rw [findRoute_map numbers, found]; rfl, ?_⟩
      dsimp only
      split
      next same =>
        cases active with
        | true =>
            simp only [routeUp, Bool.and_eq_true, true_and] at up ⊢
            exact up.2
        | false =>
            have named : SqWqe.tpn raw = tpn := (findRoute_id found).symm.trans same
            exact absurd (named ▸ carried) kept
      next => exact up
  | removed tpn other foundOther inactive idle =>
      have different : SqWqe.tpn raw ≠ tpn := by
        rintro rfl
        rw [found, Option.some.injEq] at foundOther
        subst foundOther
        simp [routeUp, inactive] at up
      refine ⟨route, ?_, up⟩
      dsimp only
      rw [findRoute_filter different, found]

/-- A step changes the routes or the lanes, never both. -/
theorem RouteOutcome.lane {state after : State} {event : Event}
    (outcome : RouteOutcome state event after) (id : Nat) : after.lane id = state.lane id := by
  cases outcome <;> rfl

/-- What the route check establishes, and the TP commands do not take away, holds of every
waiting descriptor of the Jetty. -/
theorem payloads_of_reaches {config : Config} {guard : State → Event → State → Prop} (id : Nat)
    (Served : List TpRoute → List Bool → Bytes → Prop)
    (admitted : ∀ routes linkUp raw, Checked routes linkUp raw → Served routes linkUp raw)
    (kept : ∀ before event after raw, RouteOutcome before event after →
      guard before event after → raw ∈ (before.lane id).payloads →
      Served before.tpRoutes before.linkUp raw → Served after.tpRoutes after.linkUp raw)
    {state : State} (reached : Reaches (step config) guard (State.initial config) state) :
    ∀ raw ∈ (state.lane id).payloads, Served state.tpRoutes state.linkUp raw := by
  refine reached.induction_on (fun state => ∀ raw ∈ (state.lane id).payloads,
    Served state.tpRoutes state.linkUp raw) ?_ ?_
  · intro raw membership
    rw [State.initial_lane] at membership
    simp [Lane.payloads] at membership
  · intro before event after earlier served taken allowed raw membership
    rcases step_routes taken with ⟨routes, links⟩ | outcome
    · rw [routes, links]
      rcases (step_acts (settled_of_reaches earlier) taken).2 id with unchanged | acts
      · exact served raw (unchanged ▸ membership)
      · exact (acts.payloads membership).elim (served raw) (admitted _ _ raw)
    · rw [outcome.lane id] at membership
      exact kept before event after raw outcome allowed membership (served raw membership)

theorem checked_of_reaches {config : Config} {state : State}
    (reached : Reaches (step config) RouteKept (State.initial config) state) (id : Nat) :
    ∀ raw ∈ (state.lane id).payloads, Checked state.tpRoutes state.linkUp raw :=
  payloads_of_reaches id Checked (fun _ _ _ checked => checked)
    (fun _ _ _ raw outcome kept membership checked =>
      outcome.checked kept ⟨id, raw, membership, rfl⟩ checked) reached

/-! ## Frames -/

def Observation.frame : Observation → Option Frame
  | .sent _ _ frame => some frame
  | _ => none

attribute [simp] Observation.frame

/-- The request frames handed to the network so far. -/
def State.frames (state : State) : List Frame := gather Observation.frame state.trace

@[simp] theorem frames_retired (id : Nat) (entries : List SqCompletion) :
    gather Observation.frame
      (entries.map fun front => Observation.retired id front.request) = [] :=
  gather_eq_nil.mpr (by simp)

/-- A frame leaves by the route found for its TP, which is up or belongs to a descriptor
that was waiting. -/
def State.Departs (state : State) (id : Nat) (frame : Frame) : Prop :=
  ∃ route, findRoute state.tpRoutes frame.tpn = some route ∧
    frame.sourcePort = route.port % 2 ^ 16 ∧
    (routeUp state.linkUp route = true ∨
      ∃ raw ∈ (state.lane id).payloads, SqWqe.tpn raw = frame.tpn)

/-- Code that may hand a frame to the network. -/
def Task.sends : Task → Bool
  | .handleSqWqe .. | .submitSqPayload .. => true
  | _ => false

theorem Ran.frames_quiet {config : Config} {base after : State} {id : Nat} {task : Task}
    (ran : Ran config base id task after) (quiet : task.sends = false) :
    after.frames = base.frames := by
  unfold State.frames
  cases ran with
  | absent | finishKept | completeAbsent | continueLast | continueRead | releaseSqFetch => simp
  | finishPopped => simp [-List.map_take]
  | processSq producer direct jetty _ existing outcome => cases outcome <;> simp
  | resumeSq jetty _ existing outcome => cases outcome <;> simp
  | processSqLoop producer jetty _ existing outcome => cases outcome <;> simp
  | fillSqCache producer targetProducer jetty _ existing outcome => cases outcome <;> simp
  | executeSqHead producer targetProducer jetty _ existing outcome => cases outcome <;> simp
  | handleSqWqe | submitSqPayload => simp [Task.sends] at quiet
  | drainPreparedWrites jetty _ existing outcome => cases outcome <;> simp
  | completeSq request status substatus jetty _ existing outcome => cases outcome <;> simp
  | retireSq jetty _ existing outcome => cases outcome <;> simp
  | retireSqLoop jetty _ existing outcome =>
      cases outcome with
      | stopped => simp
      | published =>
          unfold publishSq
          split <;> simp
  | retireSqPipelinedLoop jetty _ existing outcome =>
      cases outcome with
      | stopped => simp
      | published =>
          unfold publishSq
          split <;> simp
  | finishSqPipelined entry ok jetty _ existing outcome => cases outcome <;> simp

theorem Ran.frames {config : Config} {base after : State} {id : Nat} {task : Task}
    (ran : Ran config base id task after) (own : task.on id = true) :
    after.frames = base.frames ∨
      ∃ frame, after.frames = base.frames ++ [frame] ∧ (base.push [task]).Departs id frame := by
  have waiting : ∀ raw, task.payload = some raw →
      raw ∈ ((base.push [task]).lane id).payloads := by
    intro raw payload
    unfold Lane.payloads
    rw [State.lane_push, List.filter_cons_of_pos own, gather_append, gather_cons, payload]
    simp
  cases quiet : task.sends with
  | false => exact .inl (ran.frames_quiet quiet)
  | true =>
    unfold State.frames
    cases ran with
    | absent => exact .inl (by simp)
    | handleSqWqe raw jetty _ existing outcome =>
        cases outcome with
        | read route frame pending admitted opcode tpn port owner number request =>
            right
            exact ⟨frame, by simp [reserveSq], route, tpn ▸ admitted.found, port,
              .inl admitted.up⟩
        | reading route observation expected admitted alone observed =>
            exact .inl (by simp [observed])
        | _ => exact .inl (by simp [prepareWrite, rejectSend, reserveSq])
    | submitSqPayload raw payload reserved jetty _ existing outcome =>
        have carried := waiting raw rfl
        cases outcome with
        | released | lost => exact .inl (by simp)
        | freshSend route frame opcode sound found tpn port =>
            right
            exact ⟨frame, by simp [reserveSq], route, tpn ▸ found, port,
              .inr ⟨raw, carried, tpn.symm⟩⟩
        | freshWrite route frame pending opcode sound found tpn port owner number request =>
            right
            exact ⟨frame, by simp [reserveSq], route, tpn ▸ found, port,
              .inr ⟨raw, carried, tpn.symm⟩⟩
        | heldSend held route frame opcode found tpn port =>
            right
            exact ⟨frame, by simp, route, tpn ▸ found, port, .inr ⟨raw, carried, tpn.symm⟩⟩
        | heldWrite held route frame pending opcode found tpn port owner number request =>
            right
            exact ⟨frame, by simp, route, tpn ▸ found, port, .inr ⟨raw, carried, tpn.symm⟩⟩
    | _ => simp [Task.sends] at quiet

theorem Called.frames {config : Config} {base after : State} {ok : Bool} {bytes : Bytes}
    {id : Nat} {callback : Callback}
    (called : Called config base ok bytes id callback after) : after.frames = base.frames := by
  unfold State.frames
  cases called with
  | absent | writePayload | writeSent | sendDone | cqe => simp
  | prefetch start count jetty _ existing outcome => cases outcome <;> simp
  | continuation raw remaining nextSlot contiguous jetty _ existing outcome =>
      cases outcome <;> simp
  | sendPayload raw expected jetty _ existing outcome => cases outcome <;> simp
  | sendFailed => split <;> simp

theorem PendingOutcome.frames {base after : State} (outcome : PendingOutcome base after) :
    after.frames = base.frames := by
  unfold State.frames
  cases outcome <;> simp

/-- Only the code of a Jetty hands out frames. -/
theorem step_frames {config : Config} {state next : State} {event : Event}
    (taken : step config state event = some next) :
    next.frames = state.frames ∨
      ∃ id frame, next.frames = state.frames ++ [frame] ∧ state.Departs id frame := by
  cases step_stepped taken with
  | ran task rest who _ top own ran =>
      have frames := ran.frames own
      rw [state.push_pop top] at frames
      exact frames.imp_right fun ⟨frame, sent⟩ => ⟨who, frame, sent⟩
  | called index ok bytes callback who _ chosen own called => exact .inl called.frames
  | answered index ok bytes callback _ chosen outcome => exact .inl outcome.frames
  | received reply _ outcome => exact .inl outcome.frames
  | direct who offset data jetty _ existing outcome =>
      left
      unfold State.frames
      cases outcome <;> simp
  | routed event _ outcome => cases outcome <;> exact .inl rfl
  | _ => exact .inl rfl

/-- Along runs that keep the routes of waiting descriptors, every frame leaves on a live
route. -/
theorem frames_leave_on_live_routes {config : Config} {state next : State} {event : Event}
    (reached : Reaches (step config) RouteKept (State.initial config) state)
    (taken : step config state event = some next)
    {frames : List Frame} (handed : next.frames = state.frames ++ frames) :
    ∀ frame ∈ frames, state.LiveRoute frame := by
  intro frame membership
  rcases step_frames taken with none | ⟨id, sent, one, route, found, port, up | ⟨raw, waiting, tpn⟩⟩
  · rw [none] at handed
    obtain rfl : frames = [] := by simpa using handed
    simp at membership
  · obtain rfl : frames = [sent] := List.append_cancel_left (handed.symm.trans one)
    obtain rfl : frame = sent := by simpa using membership
    simp only [routeUp, Bool.and_eq_true] at up
    exact ⟨route, found, up.1, up.2, port⟩
  · obtain rfl : frames = [sent] := List.append_cancel_left (handed.symm.trans one)
    obtain rfl : frame = sent := by simpa using membership
    -- the frame is built from a fresh look-up, and what the check found is still up
    obtain ⟨_, other, foundOther, up⟩ := checked_of_reaches reached id raw waiting
    rw [tpn, found, Option.some.injEq] at foundOther
    subst foundOther
    simp only [routeUp, Bool.and_eq_true] at up
    exact ⟨route, found, up.1, up.2, port⟩

/-- The event leaves every route in service, whatever waits. -/
def Event.serving (state : State) : Event → Bool
  | .setTpActive _ active => active
  | .setLinkState port up => up || (state.linkUp.set port false).any (fun up => up)
  | _ => true

theorem RouteKept.of_serving {before after : State} {event : Event}
    (serving : event.serving before = true) : RouteKept before event after := by
  cases event with
  | setTpActive tpn active =>
      obtain rfl : active = true := serving
      trivial
  | setLinkState port up =>
      cases up with
      | true => trivial
      | false => exact .inl serving
  | _ => trivial

/-- The frames the next activation hands out, with the verdict on their routes. -/
def State.nextFrames (config : Config) (state : State) : Option (List (Frame × Bool)) :=
  (step config state .run).bind fun next =>
    if next.frames.take state.frames.length = state.frames then
      some ((next.frames.drop state.frames.length).map fun frame =>
        (frame, decide (state.LiveRoute frame)))
    else none

theorem State.nextFrames_spec {config : Config} {state : State} {seen : List (Frame × Bool)}
    (handed : state.nextFrames config = some seen) :
    ∃ next frames, step config state .run = some next ∧ next.frames = state.frames ++ frames ∧
      seen = frames.map fun frame => (frame, decide (state.LiveRoute frame)) := by
  obtain ⟨next, taken, rest⟩ := Option.bind_eq_some_iff.mp handed
  split at rest
  next grown =>
    refine ⟨next, next.frames.drop state.frames.length, taken, ?_, ?_⟩
    · have parts := List.take_append_drop state.frames.length next.frames
      rw [grown] at parts
      exact parts.symm
    · simpa using rest.symm
  next => simp at rest

/-- The link of a WRITE goes down while its payload is read; its route is bound to the
other port, and the frame leaves there. -/
theorem write_leaves_on_rebound_route :
    ∃ state next frame, Reaches (step (.small false)) RouteKept (State.initial (.small false)) state ∧
      step (.small false) state .run = some next ∧
      next.frames = state.frames ++ [frame] ∧ state.LiveRoute frame := by
  let write := SqWqe.image true 0 0 3 1 0x8000 ⟨4, 0, 0x8000⟩
  let events : List Event := opening 9 3 ++ [.doorbell 9 1] ++ runs 7 ++
    [.fire 0 true write] ++ runs 10 ++
    [.setLinkState 0 false, .fire 0 true [1, 2, 3, 4]] ++ runs 1
  obtain ⟨state, reached, seen⟩ := exists_of_execute
    (show (execute (step (.small false)) (fun before event _ => event.serving before = true) events
        (State.initial (.small false))).map
      (fun state => (state.nextFrames (.small false)).map (·.map Prod.snd)) =
        some (some [true]) by decide +kernel)
  obtain ⟨verdicts, handed, one⟩ := Option.map_eq_some_iff.mp seen
  obtain ⟨next, frames, taken, grown, rfl⟩ := State.nextFrames_spec handed
  obtain ⟨frame, rfl⟩ : ∃ frame, frames = [frame] := by
    apply List.length_eq_one_iff.mp
    simpa using congrArg List.length one
  replace reached : Reaches (step (.small false)) RouteKept (State.initial (.small false)) state :=
    reached.mono fun _ _ _ serving => RouteKept.of_serving serving
  exact ⟨state, next, frame, reached, taken, grown,
    frames_leave_on_live_routes reached taken grown frame (by simp)⟩

/-- Both links go down while the payload of a WRITE is read: its route is deactivated, and
`SubmitSqPayload`, which does not look at that, sends the frame on it. -/
theorem write_leaves_on_inactive_route :
    ¬ ∀ (state next : State) (event : Event) (frames : List Frame),
      Reaches (step (.small false)) always (State.initial (.small false)) state →
      step (.small false) state event = some next → next.frames = state.frames ++ frames →
      ∀ frame ∈ frames, state.LiveRoute frame := by
  intro live
  let write := SqWqe.image true 0 0 3 1 0x8000 ⟨4, 0, 0x8000⟩
  let events : List Event := opening 9 3 ++ [.doorbell 9 1] ++ runs 7 ++
    [.fire 0 true write] ++ runs 10 ++
    [.setLinkState 0 false, .setLinkState 1 false, .fire 0 true [1, 2, 3, 4]] ++ runs 1
  obtain ⟨state, reached, seen⟩ := exists_of_execute
    (show (execute (step (.small false)) always events (State.initial (.small false))).map
      (fun state => (state.nextFrames (.small false)).map (·.map Prod.snd)) =
        some (some [false]) by decide +kernel)
  obtain ⟨verdicts, handed, one⟩ := Option.map_eq_some_iff.mp seen
  obtain ⟨next, frames, taken, grown, rfl⟩ := State.nextFrames_spec handed
  obtain ⟨frame, rfl⟩ : ∃ frame, frames = [frame] := by
    apply List.length_eq_one_iff.mp
    simpa using congrArg List.length one
  have alive := live state next .run [frame] reached taken grown frame (by simp)
  simp [alive] at one

end Udma.Sq
