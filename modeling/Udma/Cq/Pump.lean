import Udma.Cq.Passage
import Udma.Cq.Wakeups
import Udma.Transition.Run

/-!
# The pump

The frames of the pump on the stack are one frame of `PumpCompletionWork` and at
most one of the loop of `ProcessJfcPublications` above it, and the flags of both
functions say which of them are there.  So a call that a flag swallows is a call
that an activation below will make good, and a publication or an expired timer
that the pump will not look at again has to wait for a reason.
-/

namespace Udma.Cq

open Udma.Abi Udma.Arithmetic Udma.Collections Udma.Transition

variable {config : Config} {state before after : State} {event : Event}

/-! ## Frames -/

/-- Frames of `ProcessJfcPublications`. -/
def Task.works : Task → Bool
  | .processJfcPublications _ | .admitJfcPublications _ | .leaveJfcPublications _ => true
  | _ => false

/-- The frames of the pump, from the top of the stack. -/
inductive Pumping : Bool → List Task → Prop where
  | idle : Pumping false []
  | pass : Pumping true [.pumpPass]
  | timers (expired : List Nat) : Pumping true [.pumpTimers expired]
  | queues (ids : List Nat) : Pumping true [.pumpQueues ids]
  | worker (task : Task) (ids : List Nat) : task.works = true →
      Pumping true [task, .pumpQueues ids]

def State.frames (state : State) : List Task := state.stack.filter Task.frame

/-- The flags agree with the frames. -/
structure State.Framed (state : State) : Prop where
  frames : Pumping state.completionWorkDispatching state.frames
  kicked : state.completionWorkKick = true → state.completionWorkDispatching = true
  marked : ∀ id queue, state.jfcPublications.lookup id = some queue → queue.dispatching = true →
    .admitJfcPublications id ∈ state.frames ∨ .leaveJfcPublications id ∈ state.frames

theorem frames_of_stack {task : Task} {rest : List Task} (shape : before.stack = task :: rest) :
    before.frames = if task.frame then task :: (before.withStack rest).frames
      else (before.withStack rest).frames := by
  simp only [State.frames, shape, List.filter_cons, State.withStack_stack]

theorem Pushes.frames {events : Bool} (pushes : Pushes events state after) :
    after.frames = state.frames := by
  obtain ⟨tasks, shape, plain⟩ := pushes.stack
  have none : tasks.filter Task.frame = [] :=
    List.filter_eq_nil_iff.mpr fun task membership => by simp [plain task membership]
  rw [State.frames, shape, List.filter_append, none, List.nil_append]
  rfl

namespace State.Framed

theorem pushes {events : Bool} (framed : state.Framed) (pushes : Pushes events state after)
    (marks : ∀ id queue, after.jfcPublications.lookup id = some queue → queue.dispatching = true →
      ∃ old, state.jfcPublications.lookup id = some old ∧ old.dispatching = true) :
    after.Framed where
  frames := by
    rw [pushes.frames, pushes.dispatching]
    exact framed.frames
  kicked := by
    rw [pushes.kick, pushes.dispatching]
    exact framed.kicked
  marked := by
    intro id queue found marked
    obtain ⟨old, present, flag⟩ := marks id queue found marked
    rw [pushes.frames]
    exact framed.marked id old present flag

theorem beside {events : Bool} {touched : List Nat} (framed : state.Framed)
    (beside : Beside events touched state after) : after.Framed := by
  rcases beside with still | roused
  · refine framed.pushes still.pushes ?_
    intro id queue found marked
    rw [still.queues] at found
    exact ⟨queue, found, marked⟩
  · exact framed.pushes roused.pushes roused.marks

/-- An activation that is not a frame has been taken off the stack. -/
theorem pop {task : Task} {rest : List Task} (framed : before.Framed)
    (shape : before.stack = task :: rest) (other : task.frame = false) :
    (before.withStack rest).Framed := by
  have frames := frames_of_stack shape
  rw [other, if_neg Bool.false_ne_true] at frames
  exact ⟨frames ▸ framed.frames, framed.kicked, fun id queue found marked =>
    frames ▸ framed.marked id queue found marked⟩

/-- Below a frame of `PumpCompletionWork` there is no other. -/
theorem below_pump {task : Task} {rest : List Task} (framed : before.Framed)
    (shape : before.stack = task :: rest) (own : task.frame = true) (idle : task.works = false) :
    (before.withStack rest).frames = [] ∧ before.completionWorkDispatching = true ∧
      ∀ id queue, before.jfcPublications.lookup id = some queue → queue.dispatching = false := by
  have frames := frames_of_stack shape
  rw [own, if_pos rfl] at frames
  have pumping := framed.frames
  have marked := framed.marked
  rw [frames] at pumping marked
  generalize (before.withStack rest).frames = below at *
  generalize before.completionWorkDispatching = flag at *
  have unmarked : below = [] → ∀ id queue, before.jfcPublications.lookup id = some queue →
      queue.dispatching = false := by
    rintro rfl id queue found
    by_contra flagged
    rcases marked id queue found (by simpa using flagged) with held | held
    all_goals
      obtain rfl := List.mem_singleton.mp held
      simp [Task.works] at idle
  cases pumping with
  | pass | timers | queues => exact ⟨rfl, rfl, unmarked rfl⟩
  | worker _ ids works => simp [works] at idle

/-- Below a frame of `ProcessJfcPublications` there is the loop over the queues. -/
theorem below_worker {task : Task} {rest : List Task} (framed : before.Framed)
    (shape : before.stack = task :: rest) (works : task.works = true) :
    (∃ ids, (before.withStack rest).frames = [.pumpQueues ids]) ∧
      before.completionWorkDispatching = true ∧
      ∀ id queue, before.jfcPublications.lookup id = some queue → queue.dispatching = true →
        task = .admitJfcPublications id ∨ task = .leaveJfcPublications id := by
  have own : task.frame = true := by
    cases task <;> first | rfl | simp [Task.works] at works
  have frames := frames_of_stack shape
  rw [own, if_pos rfl] at frames
  have pumping := framed.frames
  have marked := framed.marked
  rw [frames] at pumping marked
  generalize (before.withStack rest).frames = below at *
  generalize before.completionWorkDispatching = flag at *
  cases pumping with
  | pass | timers | queues => simp [Task.works] at works
  | worker _ ids _ =>
      refine ⟨⟨ids, rfl⟩, rfl, ?_⟩
      intro id queue found flagged
      rcases marked id queue found flagged with held | held
      · exact .inl (by simpa using (List.mem_pair.mp held).resolve_right (by simp) |>.symm)
      · exact .inr (by simpa using (List.mem_pair.mp held).resolve_right (by simp) |>.symm)

end State.Framed

/-! ## Who is served -/

/-- The reasons for which the publications of JFC `id` have to wait.  In pipelined mode
`strict` asks that the ring is full as far as the cached consumer shows. -/
def State.Blocked (config : Config) (strict : Bool) (state : State) (id : Nat) : Prop :=
  config.completionEventSlots ≤ state.completionEventSlotsInUse ∨
    state.load config id ≠ 0 ∧
      (strict = true → config.pipelinedCompletionDma = true →
        ∀ ring, state.ring id = some ring → ring.depth ≤ ring.used)

/-- The pump has looked, or will look, at every publication of a JFC that it can serve and
at every expired timer. -/
structure State.Served (config : Config) (strict : Bool) (state : State) : Prop where
  publications : ∀ id, state.pendingFor id ≠ [] →
    (config.pipelinedCompletionDma = true → (state.ring id).isSome = true) →
    state.attends id = true ∨ state.Blocked config strict id
  timers : ∀ id jfc, state.jfcs.lookup id = some jfc → jfc.moderating = true →
    jfc.moderationDeadline ≤ state.now →
    state.times id = true ∨ config.completionEventSlots ≤ state.completionEventSlotsInUse

theorem Pushes.subset {events : Bool} (pushes : Pushes events state after) :
    state.stack ⊆ after.stack := by
  obtain ⟨tasks, shape, _⟩ := pushes.stack
  rw [shape]
  exact List.subset_append_right _ _

theorem State.attends_mono {id : Nat} (attends : state.attends id = true)
    (kick : state.completionWorkKick = after.completionWorkKick)
    (stack : ∀ task ∈ state.stack, task.attends id = true → after.attends id = true) :
    after.attends id = true := by
  rw [State.attends, Bool.or_eq_true, List.any_eq_true] at attends
  rcases attends with kicked | ⟨task, held, own⟩
  · rw [State.attends, ← kick, kicked, Bool.true_or]
  · exact stack task held own

theorem State.times_mono {id : Nat} (times : state.times id = true)
    (kick : state.completionWorkKick = after.completionWorkKick)
    (stack : ∀ task ∈ state.stack, task.times id = true → after.times id = true) :
    after.times id = true := by
  rw [State.times, Bool.or_eq_true, List.any_eq_true] at times
  rcases times with kicked | ⟨task, held, own⟩
  · rw [State.times, ← kick, kicked, Bool.true_or]
  · exact stack task held own

theorem Pushes.attends {events : Bool} (pushes : Pushes events state after) {id : Nat}
    (attends : state.attends id = true) : after.attends id = true :=
  State.attends_mono attends pushes.kick.symm
    fun _ held own => State.attends_of_mem (pushes.subset held) own

theorem Pushes.times {events : Bool} (pushes : Pushes events state after) {id : Nat}
    (times : state.times id = true) : after.times id = true :=
  State.times_mono times pushes.kick.symm
    fun _ held own => State.times_of_mem (pushes.subset held) own

/-- What the pump looks at is the same. -/
structure Reframed (config : Config) (state after : State) : Prop where
  kick : after.completionWorkKick = state.completionWorkKick
  slots : after.completionEventSlotsInUse = state.completionEventSlotsInUse
  now : after.now = state.now
  jfcs : after.jfcs = state.jfcs
  pending : after.pendingFor = state.pendingFor
  load : after.load config = state.load config

theorem Reframed.of_stack (state : State) (stack : List Task) :
    Reframed config state (state.withStack stack) := ⟨rfl, rfl, rfl, rfl, rfl, rfl⟩

theorem Reframed.ring (kept : Reframed config state after) (id : Nat) :
    after.ring id = state.ring id := by rw [State.ring, kept.jfcs]; rfl

/-- A queue whose publications and load stay. -/
theorem Reframed.setQueue {id : Nat} {old new : PublicationQueue}
    (found : state.jfcPublications.lookup id = some old) (pending : new.pending = old.pending)
    (load : new.load config = old.load config) : Reframed config state (state.setQueue id new) where
  kick := rfl
  slots := rfl
  now := rfl
  jfcs := rfl
  pending := by
    rw [State.pendingFor_setQueue, pending, ← State.pendingFor_eq found, Function.update_eq_self]
  load := by
    rw [State.load_setQueue, load, ← State.load_eq found, Function.update_eq_self]

theorem Reframed.trans {middle : State} (first : Reframed config state middle)
    (second : Reframed config middle after) : Reframed config state after where
  kick := second.kick.trans first.kick
  slots := second.slots.trans first.slots
  now := second.now.trans first.now
  jfcs := second.jfcs.trans first.jfcs
  pending := second.pending.trans first.pending
  load := second.load.trans first.load

namespace State.Served

variable {strict : Bool}

theorem of_alarmed (alarmed : state.alarmed = true) : state.Served config strict where
  publications := fun id _ _ => .inl (State.attends_of_alarmed alarmed id)
  timers := fun id _ _ _ _ => .inl (State.times_of_alarmed alarmed id)

/-- A step beside the pump, if it does not make room for a publication that waits. -/
theorem still {events : Bool} {touched : List Nat} (served : state.Served config strict)
    (still : Still events touched state after)
    (covered : ∀ id ∈ touched, after.pendingFor id ≠ [] →
      (config.pipelinedCompletionDma = true → (after.ring id).isSome = true) →
      after.attends id = true ∨ after.Blocked config strict id) :
    after.Served config strict where
  publications := by
    intro id waiting served'
    rcases still.rings id with same | gone | inside
    · have pending : after.pendingFor id = state.pendingFor id := by
        rw [State.pendingFor, still.queues]
        rfl
      have load : after.load config id = state.load config id := by
        rw [State.load, still.queues]
        rfl
      rw [pending] at waiting
      rw [same] at served'
      refine (served.publications id waiting served').imp still.pushes.attends ?_
      unfold State.Blocked
      rw [still.slots, load, same]
      exact fun blocked => blocked
    · by_cases pipelined : config.pipelinedCompletionDma = true
      · have present := served' pipelined
        simp [gone] at present
      · have pending : after.pendingFor id = state.pendingFor id := by
          rw [State.pendingFor, still.queues]
          rfl
        have load : after.load config id = state.load config id := by
          rw [State.load, still.queues]
          rfl
        rw [pending] at waiting
        refine (served.publications id waiting (fun other => absurd other pipelined)).imp
          still.pushes.attends ?_
        unfold State.Blocked
        rw [still.slots, load]
        exact Or.imp_right fun busy => ⟨busy.1, fun _ other => absurd other pipelined⟩
    · exact covered id inside waiting served'
  timers := by
    intro id jfc found moderating expired
    obtain ⟨old, present, moderated, deadline⟩ := still.timers id jfc found moderating
    rw [still.now, ← deadline] at expired
    rw [still.slots]
    exact (served.timers id old present moderated expired).imp_left still.pushes.times

/-- The pump moves on, with what it looks at unchanged.  It has to be shown what becomes of
the activations that were going to look. -/
theorem reframe (served : before.Served config strict) (kept : Reframed config before after)
    (attends : ∀ id, before.pendingFor id ≠ [] →
      (config.pipelinedCompletionDma = true → (before.ring id).isSome = true) →
      ∀ task ∈ before.stack, task.attends id = true →
        after.attends id = true ∨ after.Blocked config strict id)
    (times : ∀ id jfc, before.jfcs.lookup id = some jfc → ∀ task ∈ before.stack,
      task.times id = true → after.times id = true ∨
        config.completionEventSlots ≤ after.completionEventSlotsInUse) :
    after.Served config strict where
  publications := by
    intro id waiting present
    rw [kept.pending] at waiting
    rw [kept.ring] at present
    rcases served.publications id waiting present with looks | blocked
    · rw [State.attends, Bool.or_eq_true, List.any_eq_true] at looks
      rcases looks with kicked | ⟨task, held, own⟩
      · exact .inl (by rw [State.attends, kept.kick, kicked, Bool.true_or])
      · exact attends id waiting present task held own
    · right
      unfold State.Blocked
      rw [kept.slots, kept.load, kept.ring]
      exact blocked
  timers := by
    intro id jfc found moderating expired
    rw [kept.jfcs] at found
    rw [kept.now] at expired
    rcases served.timers id jfc found moderating expired with looks | full
    · rw [State.times, Bool.or_eq_true, List.any_eq_true] at looks
      rcases looks with kicked | ⟨task, held, own⟩
      · exact .inl (by rw [State.times, kept.kick, kicked, Bool.true_or])
      · exact times id jfc found task held own
    · exact .inr (kept.slots ▸ full)

/-- The rest of the stack stays. -/
theorem reframe_top {task : Task} {rest : List Task} (served : before.Served config strict)
    (shape : before.stack = task :: rest) (kept : Reframed config before after)
    (below : rest ⊆ after.stack)
    (attends : ∀ id, before.pendingFor id ≠ [] →
      (config.pipelinedCompletionDma = true → (before.ring id).isSome = true) →
      task.attends id = true → after.attends id = true ∨ after.Blocked config strict id)
    (times : ∀ id jfc, before.jfcs.lookup id = some jfc → task.times id = true →
      after.times id = true ∨ config.completionEventSlots ≤ after.completionEventSlotsInUse) :
    after.Served config strict := by
  refine served.reframe kept ?_ ?_
  · intro id waiting present other held own
    rw [shape] at held
    rcases List.mem_cons.mp held with rfl | lower
    · exact attends id waiting present own
    · exact .inl (State.attends_of_mem (below lower) own)
  · intro id jfc found other held own
    rw [shape] at held
    rcases List.mem_cons.mp held with rfl | lower
    · exact times id jfc found own
    · exact .inl (State.times_of_mem (below lower) own)

/-- An activation that is not about the pump has been taken off the stack. -/
theorem pop {task : Task} {rest : List Task} (served : before.Served config strict)
    (shape : before.stack = task :: rest) (other : task.frame = false)
    (quiet : task.kicks = false) : (before.withStack rest).Served config strict := by
  have deaf : ∀ id, task.attends id = false ∧ task.times id = false := by
    intro id
    cases task <;> first | exact ⟨rfl, rfl⟩ | (cases other; done) | cases quiet
  refine served.reframe_top shape (.of_stack before rest) (List.Subset.refl rest) ?_ ?_
  · intro id _ _ own
    simp [deaf] at own
  · intro id _ _ own
    simp [deaf] at own

end State.Served

/-! ## The frames run -/

section Frames

variable {strict : Bool}

/-- A call of the pump: the running pump is kicked, or a pass is begun. -/
theorem pumpCompletionWork_framed (framed : state.Framed) : (pumpCompletionWork state).Framed := by
  unfold pumpCompletionWork
  split
  next busy => exact ⟨framed.frames, fun _ => busy, framed.marked⟩
  next idle =>
    have empty : state.frames = [] := by
      have pumping := framed.frames
      rw [Bool.eq_false_iff.mpr idle] at pumping
      generalize state.frames = frames at pumping
      cases pumping
      rfl
    have single : State.frames ({ state with
        completionWorkKick := true, completionWorkDispatching := true }.push [.pumpPass]) =
        [.pumpPass] := by
      change Task.pumpPass :: state.frames = _
      rw [empty]
    constructor
    · rw [single]
      exact .pass
    · exact fun _ => rfl
    · intro id queue found marked
      have held := framed.marked id queue found marked
      simp [empty] at held

theorem pumpCompletionWork_served (state : State) :
    (pumpCompletionWork state).Served config strict := by
  refine .of_alarmed ?_
  unfold pumpCompletionWork
  split <;> rfl

/-- The frames after a frame of `PumpCompletionWork` has been replaced. -/
theorem State.Framed.replace {task : Task} {rest : List Task} (framed : before.Framed)
    (new : List Task) (shape : before.stack = task :: rest) (own : task.frame = true)
    (idle : task.works = false) (queues : after.jfcPublications = before.jfcPublications)
    (stack : after.stack.filter Task.frame = new ++ rest.filter Task.frame)
    (pumping : Pumping after.completionWorkDispatching new)
    (kicked : after.completionWorkKick = true → after.completionWorkDispatching = true) :
    after.Framed := by
  obtain ⟨empty, _, unmarked⟩ := framed.below_pump shape own idle
  have frames : after.frames = new := by
    have below : rest.filter Task.frame = [] := empty
    rw [State.frames, stack, below, List.append_nil]
  constructor
  · rw [frames]
    exact pumping
  · exact kicked
  · intro id queue found marked
    rw [queues] at found
    rw [unmarked id queue found] at marked
    simp at marked

/-- The expired timers are all in the snapshot. -/
theorem mem_expired {id : Nat} {jfc : Jfc} (found : state.jfcs.lookup id = some jfc)
    (moderating : jfc.moderating = true) (due : jfc.moderationDeadline ≤ state.now) :
    id ∈ state.expired := by
  have entry : (⟨id, jfc⟩ : Sigma fun _ : Nat => Jfc) ∈ state.jfcs.entries :=
    AList.mem_lookup_iff.mp found
  refine List.mem_map.mpr ⟨⟨id, jfc⟩, List.mem_filter.mpr ⟨entry, ?_⟩, rfl⟩
  simp only [Jfc.moderating, Bool.and_eq_true, bne_iff_ne] at moderating
  simp [moderating.1, moderating.2, due]

theorem beginPass_framed {expired rest : List _} (framed : before.Framed)
    (shape : before.stack = .pumpPass :: rest) :
    (beginPass (before.withStack rest) expired).Framed := by
  have flag := (framed.below_pump shape rfl rfl).2.1
  refine framed.replace [.pumpTimers expired] shape rfl rfl rfl rfl ?_ ?_
  · change Pumping before.completionWorkDispatching _
    rw [flag]
    exact .timers expired
  · simp [beginPass]

theorem beginPass_served {expired : List Nat} {rest : List Task} (order : expired.Perm before.expired) :
    (beginPass (before.withStack rest) expired).Served config strict where
  publications := by
    intro id _ _
    refine .inl (State.attends_of_mem (show Task.pumpTimers expired ∈ _ from ?_) rfl)
    simp [beginPass]
  timers := by
    intro id jfc found moderating due
    refine .inl (State.times_of_mem (show Task.pumpTimers expired ∈ _ from ?_) ?_)
    · simp [beginPass]
    · exact List.contains_iff_mem.mpr (order.mem_iff.mpr (mem_expired found moderating due))

/-- Every queue has its turn. -/
theorem mem_rotation {id : Nat} (waiting : state.pendingFor id ≠ []) : id ∈ state.rotation := by
  have known : id ∈ state.jfcPublications.keys := by
    by_contra missing
    have none : state.jfcPublications.lookup id = none := AList.lookup_eq_none.mpr missing
    simp [State.pendingFor, none] at waiting
  have sorted : id ∈ state.jfcPublications.keys.insertionSort (· ≤ ·) :=
    (List.mem_insertionSort _).mpr known
  unfold State.rotation
  simp only
  split
  next => exact sorted
  next last _ =>
    rw [List.mem_append, or_comm, ← List.mem_append, List.takeWhile_append_dropWhile]
    exact sorted

theorem pumpTimers_framed {expired : List Nat} {rest : List Task} (framed : before.Framed)
    (shape : before.stack = .pumpTimers expired :: rest) :
    (pumpTimers config (before.withStack rest) expired).Framed := by
  have flag := (framed.below_pump shape rfl rfl).2.1
  have pumping : ∀ task, task = .pumpQueues (before.withStack rest).rotation ∨
      (∃ ids, task = .pumpTimers ids) → Pumping before.completionWorkDispatching [task] := by
    rintro task (rfl | ⟨ids, rfl⟩)
    · rw [flag]
      exact .queues _
    · rw [flag]
      exact .timers ids
  unfold pumpTimers
  split
  next => exact framed.replace _ shape rfl rfl rfl rfl (pumping _ (.inl rfl)) framed.kicked
  next id ids =>
    split
    next => exact framed.replace _ shape rfl rfl rfl rfl (pumping _ (.inl rfl)) framed.kicked
    next =>
      unfold pumpTimer
      split
      next => exact framed.replace _ shape rfl rfl rfl rfl (pumping _ (.inr ⟨ids, rfl⟩)) framed.kicked
      next => exact framed.replace _ shape rfl rfl rfl rfl (pumping _ (.inr ⟨ids, rfl⟩)) framed.kicked

/-- The timers are done: the queues have their turn. -/
theorem pumpQueues_entered {expired : List Nat} {rest : List Task}
    (served : before.Served config strict) (shape : before.stack = .pumpTimers expired :: rest)
    (done : expired = [] ∨ config.completionEventSlots ≤ before.completionEventSlotsInUse) :
    ((before.withStack rest).push [.pumpQueues (before.withStack rest).rotation]).Served config
      strict := by
  refine served.reframe_top shape ⟨rfl, rfl, rfl, rfl, rfl, rfl⟩ (List.subset_cons_self _ _) ?_ ?_
  · intro id waiting _ _
    have turn : id ∈ (before.withStack rest).rotation := mem_rotation waiting
    exact .inl (State.attends_of_mem List.mem_cons_self (List.contains_iff_mem.mpr turn))
  · intro id _ _ own
    rcases done with rfl | full
    · simp [Task.times] at own
    · exact .inr full

theorem pumpTimers_served {expired : List Nat} {rest : List Task}
    (served : before.Served config strict) (shape : before.stack = .pumpTimers expired :: rest) :
    (pumpTimers config (before.withStack rest) expired).Served config strict := by
  unfold pumpTimers
  split
  next => exact pumpQueues_entered served shape (.inl rfl)
  next id ids =>
    split
    next full => exact pumpQueues_entered served shape (.inr full)
    next free =>
      unfold pumpTimer
      split
      next missing =>
        refine served.reframe_top shape ⟨rfl, rfl, rfl, rfl, rfl, rfl⟩
          (List.subset_cons_self _ _) ?_ ?_
        · intro other _ _ _
          exact .inl (State.attends_of_mem List.mem_cons_self rfl)
        · intro other jfc found own
          refine .inl (State.times_of_mem List.mem_cons_self ?_)
          rcases List.mem_cons.mp (List.contains_iff_mem.mp own) with rfl | later
          · exact absurd (missing.symm.trans found) (by simp)
          · exact List.contains_iff_mem.mpr later
      next jfc present =>
        constructor
        · intro other _ _
          exact .inl (State.attends_of_mem (List.mem_cons_of_mem _ List.mem_cons_self) rfl)
        · intro other new found moderating due
          by_cases same : other = id
          · subst same
            simp only [State.push_jfcs, State.emit_jfcs, State.takeSlot_jfcs, State.setJfc_jfcs,
              AList.lookup_insert, Option.some.injEq] at found
            subst found
            simp [Jfc.moderating] at moderating
          · simp only [State.push_jfcs, State.emit_jfcs, State.takeSlot_jfcs, State.setJfc_jfcs,
              AList.lookup_insert_ne same] at found
            have looks := (served.timers other new found moderating due).resolve_right free
            refine .inl (State.times_mono looks rfl ?_)
            intro task held own
            rw [shape] at held
            rcases List.mem_cons.mp held with rfl | below
            · refine State.times_of_mem (List.mem_cons_of_mem _ List.mem_cons_self) ?_
              exact List.contains_iff_mem.mpr
                ((List.mem_cons.mp (List.contains_iff_mem.mp own)).resolve_left same)
            · exact State.times_of_mem
                (List.mem_cons_of_mem _ (List.mem_cons_of_mem _ below)) own

theorem pumpQueues_framed {ids : List Nat} {rest : List Task} (framed : before.Framed)
    (shape : before.stack = .pumpQueues ids :: rest) :
    (pumpQueues (before.withStack rest) ids).Framed := by
  have flag := (framed.below_pump shape rfl rfl).2.1
  unfold pumpQueues
  split
  next =>
    split
    next =>
      refine framed.replace [.pumpPass] shape rfl rfl rfl rfl ?_ framed.kicked
      change Pumping before.completionWorkDispatching _
      rw [flag]
      exact .pass
    next quiet =>
      exact framed.replace [] shape rfl rfl rfl rfl .idle fun kicked => absurd kicked quiet
  next id later =>
    refine framed.replace [.processJfcPublications id, .pumpQueues later] shape rfl rfl rfl rfl ?_
      framed.kicked
    change Pumping before.completionWorkDispatching _
    rw [flag]
    exact .worker _ later rfl

theorem pumpQueues_served {ids : List Nat} {rest : List Task}
    (served : before.Served config strict) (shape : before.stack = .pumpQueues ids :: rest) :
    (pumpQueues (before.withStack rest) ids).Served config strict := by
  unfold pumpQueues
  split
  next =>
    split
    next => exact .of_alarmed (State.alarmed_of_mem List.mem_cons_self rfl)
    next =>
      refine served.reframe_top shape ⟨rfl, rfl, rfl, rfl, rfl, rfl⟩ (List.Subset.refl rest) ?_ ?_
      · intro id _ _ own
        simp [Task.attends] at own
      · intro id _ _ own
        simp [Task.times, Task.kicks] at own
  next id later =>
    refine served.reframe_top shape ⟨rfl, rfl, rfl, rfl, rfl, rfl⟩ ?_ ?_ ?_
    · exact fun task below => List.mem_cons_of_mem _ (List.mem_cons_of_mem _ below)
    · intro other _ _ own
      rcases List.mem_cons.mp (List.contains_iff_mem.mp own) with rfl | among
      · exact .inl (State.attends_of_mem List.mem_cons_self (beq_self_eq_true other))
      · exact .inl (State.attends_of_mem (List.mem_cons_of_mem _ List.mem_cons_self)
          (List.contains_iff_mem.mpr among))
    · intro other _ _ own
      simp [Task.times, Task.kicks] at own

/-! ## The loop over the publications -/

/-- The frames after a frame of `ProcessJfcPublications` has been left or replaced. -/
theorem State.Framed.work {task : Task} {rest : List Task} (framed : before.Framed)
    (new : List Task) (shape : before.stack = task :: rest) (works : task.works = true)
    (stack : after.stack.filter Task.frame = new ++ rest.filter Task.frame)
    (kind : new = [] ∨ ∃ next, next.works = true ∧ new = [next])
    (dispatching : after.completionWorkDispatching = before.completionWorkDispatching)
    (marks : ∀ id queue, after.jfcPublications.lookup id = some queue → queue.dispatching = true →
      .admitJfcPublications id ∈ new ∨ .leaveJfcPublications id ∈ new) :
    after.Framed := by
  obtain ⟨⟨ids, below⟩, flag, _⟩ := framed.below_worker shape works
  have frames : after.frames = new ++ [.pumpQueues ids] := by
    have lower : rest.filter Task.frame = [.pumpQueues ids] := below
    rw [State.frames, stack, lower]
  constructor
  · rw [frames, dispatching, flag]
    rcases kind with rfl | ⟨next, own, rfl⟩
    · exact .queues ids
    · exact .worker next ids own
  · rw [dispatching, flag]
    exact fun _ => rfl
  · intro id queue found marked
    rw [frames]
    exact (marks id queue found marked).imp (List.mem_append_left _) (List.mem_append_left _)

theorem processJfcPublications_framed {id : Nat} {rest : List Task} (framed : before.Framed)
    (shape : before.stack = .processJfcPublications id :: rest) :
    (processJfcPublications config (before.withStack rest) id).Framed := by
  have unmarked : ∀ other queue, before.jfcPublications.lookup other = some queue →
      queue.dispatching ≠ true := by
    intro other queue found marked
    rcases (framed.below_worker shape rfl).2.2 other queue found marked with same | same
    all_goals cases same
  have left : (before.withStack rest).Framed := framed.work [] shape rfl rfl (.inl rfl) rfl
    fun other queue found marked => absurd marked (unmarked other queue found)
  unfold processJfcPublications
  split
  next => exact left
  next queue _ =>
    split
    next => exact left
    next =>
      refine framed.work [.admitJfcPublications id] shape rfl rfl (.inr ⟨_, rfl, rfl⟩) rfl ?_
      intro other next found marked
      by_cases same : other = id
      · exact .inl (by simp [same])
      · simp only [State.push_jfcPublications, State.setQueue_jfcPublications,
          AList.lookup_insert_ne same] at found
        exact absurd marked (unmarked other next found)

theorem processJfcPublications_served {id : Nat} {rest : List Task} (framed : before.Framed)
    (served : before.Served config strict)
    (shape : before.stack = .processJfcPublications id :: rest) :
    (processJfcPublications config (before.withStack rest) id).Served config strict := by
  unfold processJfcPublications
  split
  next missing =>
    refine served.reframe_top shape (.of_stack before rest) (List.Subset.refl rest) ?_ ?_
    · intro other waiting _ own
      obtain rfl : id = other := by simpa [Task.attends] using own
      have missing : before.jfcPublications.lookup id = none := missing
      simp [State.pendingFor, missing] at waiting
    · intro other _ _ own
      simp [Task.times, Task.kicks] at own
  next queue present =>
    split
    next swallowed =>
      have idle : queue.dispatching ≠ true := by
        intro marked
        rcases (framed.below_worker shape rfl).2.2 id queue present marked with same | same
        all_goals cases same
      obtain ⟨serial, running⟩ := swallowed.resolve_left idle
      refine served.reframe_top shape (.of_stack before rest) (List.Subset.refl rest) ?_ ?_
      · intro other _ _ own
        obtain rfl : id = other := by simpa [Task.attends] using own
        refine .inr (.inr ⟨?_, fun _ pipelined => absurd pipelined serial⟩)
        rw [State.load_eq present]
        simp [PublicationQueue.load, serial, running]
      · intro other _ _ own
        simp [Task.times, Task.kicks] at own
    next =>
      have kept : Reframed config before ((before.withStack rest).setQueue id
          { queue with dispatching := true }) :=
        (Reframed.of_stack before rest).trans (.setQueue present rfl rfl)
      refine served.reframe_top shape { kept with } (List.subset_cons_self _ _) ?_ ?_
      · intro other _ _ own
        exact .inl (State.attends_of_mem List.mem_cons_self own)
      · intro other _ _ own
        simp [Task.times, Task.kicks] at own

theorem leaveJfcPublications_framed {id : Nat} {rest : List Task} (framed : before.Framed)
    (shape : before.stack = .leaveJfcPublications id :: rest) :
    (leaveJfcPublications (before.withStack rest) id).Framed := by
  have unmarked : ∀ other queue, other ≠ id → before.jfcPublications.lookup other = some queue →
      queue.dispatching ≠ true := by
    intro other queue different found marked
    rcases (framed.below_worker shape rfl).2.2 other queue found marked with same | same
    · cases same
    · cases same
      exact different rfl
  unfold leaveJfcPublications
  split
  next missing =>
    refine framed.work [] shape rfl rfl (.inl rfl) rfl ?_
    intro other queue found marked
    by_cases same : other = id
    · subst same
      exact absurd (missing.symm.trans found) (by simp)
    · exact absurd marked (unmarked other queue same found)
  next queue _ =>
    split
    next =>
      refine framed.work [] shape rfl rfl (.inl rfl) rfl ?_
      intro other next found marked
      by_cases same : other = id
      · subst same
        simp at found
      · simp only [State.push_jfcPublications, AList.lookup_erase_ne same] at found
        exact absurd marked (unmarked other next same found)
    next =>
      refine framed.work [] shape rfl rfl (.inl rfl) rfl ?_
      intro other next found marked
      by_cases same : other = id
      · subst same
        simp only [State.setQueue_jfcPublications, AList.lookup_insert, Option.some.injEq] at found
        subst found
        simp at marked
      · simp only [State.setQueue_jfcPublications, AList.lookup_insert_ne same] at found
        exact absurd marked (unmarked other next same found)

theorem leaveJfcPublications_served {id : Nat} {rest : List Task}
    (served : before.Served config strict)
    (shape : before.stack = .leaveJfcPublications id :: rest) :
    (leaveJfcPublications (before.withStack rest) id).Served config strict := by
  have deaf : ∀ other, Task.attends other (.leaveJfcPublications id) = false ∧
      Task.times other (.leaveJfcPublications id) = false := fun _ => ⟨rfl, rfl⟩
  have leaves : ∀ after, Reframed config before after → rest ⊆ after.stack →
      after.Served config strict := by
    intro after kept below
    refine served.reframe_top shape kept below ?_ ?_
    · intro other _ _ own
      simp [deaf] at own
    · intro other _ _ own
      simp [deaf] at own
  unfold leaveJfcPublications
  split
  next => exact leaves _ (.of_stack before rest) (List.Subset.refl rest)
  next queue present =>
    have present : before.jfcPublications.lookup id = some queue := present
    split
    next empty =>
      obtain ⟨idle, unloaded, none⟩ := empty
      refine leaves _ ⟨rfl, rfl, rfl, rfl, ?_, ?_⟩ ?_
      · funext other
        by_cases same : other = id
        · subst same
          simp [State.pendingFor, present, none]
        · simp [State.pendingFor, AList.lookup_erase_ne same]
      · funext other
        by_cases same : other = id
        · subst same
          simp [State.load, present, PublicationQueue.load, unloaded, idle]
        · simp [State.load, AList.lookup_erase_ne same]
      · exact List.subset_append_right _ rest
    next =>
      exact leaves _ ((Reframed.of_stack before rest).trans (.setQueue present rfl rfl))
        (List.Subset.refl rest)

theorem grant_framed {id : Nat} {rest : List Task} (framed : before.Framed)
    (shape : before.stack = .admitJfcPublications id :: rest) (queue : PublicationQueue)
    (publication : Publication) (later : List Publication)
    (unmarked : ∀ other queue, other ≠ id → before.jfcPublications.lookup other = some queue →
      queue.dispatching ≠ true) :
    (grant config (before.withStack rest) id queue publication later).Framed := by
  have marks : ∀ other next, (grant config (before.withStack rest) id queue publication
      later).jfcPublications.lookup other = some next → next.dispatching = true → other = id := by
    intro other next found marked
    by_contra different
    unfold grant at found
    simp only [State.push_jfcPublications, State.emit_jfcPublications, State.takeSlot_jfcPublications,
      State.setQueue_jfcPublications, AList.lookup_insert_ne different] at found
    exact unmarked other next different found marked
  by_cases pipelined : config.pipelinedCompletionDma = true
  · refine framed.work [.admitJfcPublications id] shape rfl ?_ (.inr ⟨_, rfl, rfl⟩) rfl ?_
    · simp only [grant, pipelined, if_true]
      rfl
    · intro other next found marked
      exact .inl (by simp [marks other next found marked])
  · refine framed.work [.leaveJfcPublications id] shape rfl ?_ (.inr ⟨_, rfl, rfl⟩) rfl ?_
    · simp only [grant, pipelined]
      rfl
    · intro other next found marked
      exact .inr (by simp [marks other next found marked])

theorem admitJfcPublications_framed {id : Nat} {rest : List Task} (framed : before.Framed)
    (shape : before.stack = .admitJfcPublications id :: rest) :
    (admitJfcPublications config (before.withStack rest) id).Framed := by
  have unmarked : ∀ other queue, other ≠ id → before.jfcPublications.lookup other = some queue →
      queue.dispatching ≠ true := by
    intro other queue different found marked
    rcases (framed.below_worker shape rfl).2.2 other queue found marked with same | same
    · cases same
      exact different rfl
    · cases same
  have leaves : ((before.withStack rest).push [.leaveJfcPublications id]).Framed := by
    refine framed.work [.leaveJfcPublications id] shape rfl rfl (.inr ⟨_, rfl, rfl⟩) rfl ?_
    intro other queue found marked
    by_cases same : other = id
    · exact .inr (by simp [same])
    · exact absurd marked (unmarked other queue same found)
  unfold admitJfcPublications
  split
  next missing =>
    refine framed.work [] shape rfl rfl (.inl rfl) rfl ?_
    intro other queue found marked
    by_cases same : other = id
    · subst same
      exact absurd (missing.symm.trans found) (by simp)
    · exact absurd marked (unmarked other queue same found)
  next queue _ =>
    split
    next => exact leaves
    next publication later _ =>
      split
      next =>
        exact (grant_framed framed shape queue publication later unmarked).beside
          (writeCqeNow_beside config _ _ id publication)
      next => exact leaves

/-- The publication that is admitted counts as load, and in pipelined mode the loop goes
on. -/
theorem grant_covered {id : Nat} (queue : PublicationQueue) (publication : Publication)
    (later : List Publication) :
    (grant config state id queue publication later).attends id = true ∨
      config.pipelinedCompletionDma ≠ true ∧
        (grant config state id queue publication later).load config id ≠ 0 := by
  by_cases pipelined : config.pipelinedCompletionDma = true
  · refine .inl (State.attends_of_mem (show Task.admitJfcPublications id ∈ _ from ?_)
      (beq_self_eq_true id))
    simp [grant, pipelined]
  · refine .inr ⟨pipelined, ?_⟩
    have load : (grant config state id queue publication later).load config =
        (state.setQueue id (queue.admitted config later)).load config := rfl
    rw [load, State.load_setQueue, Function.update_self]
    simp [PublicationQueue.load, PublicationQueue.admitted, pipelined]

theorem grant_served {id : Nat} {rest : List Task} (served : before.Served config strict)
    (shape : before.stack = .admitJfcPublications id :: rest) (queue : PublicationQueue)
    (publication : Publication) (later : List Publication)
    (free : before.completionEventSlotsInUse < config.completionEventSlots) :
    (grant config (before.withStack rest) id queue publication later).Served config strict := by
  have below : rest ⊆ (grant config (before.withStack rest) id queue publication later).stack :=
    List.subset_cons_self _ _
  have room := Nat.not_le.mpr free
  constructor
  · intro other waiting present
    by_cases same : other = id
    · subst same
      refine (grant_covered queue publication later).imp_right ?_
      rintro ⟨serial, loaded⟩
      exact .inr ⟨loaded, fun _ pipelined => absurd pipelined serial⟩
    · have pending : (grant config (before.withStack rest) id queue publication later).pendingFor
          other = before.pendingFor other := by
        change ((before.withStack rest).setQueue id _).pendingFor other = _
        rw [State.pendingFor_setQueue, Function.update_of_ne same]
        rfl
      have load : (grant config (before.withStack rest) id queue publication later).load config
          other = before.load config other := by
        change ((before.withStack rest).setQueue id _).load config other = _
        rw [State.load_setQueue, Function.update_of_ne same]
        rfl
      rw [pending] at waiting
      rcases served.publications other waiting present with looks | full | busy
      · refine .inl (State.attends_mono looks rfl ?_)
        intro task held own
        rw [shape] at held
        rcases List.mem_cons.mp held with rfl | lower
        · exact absurd (by simpa [Task.attends] using own : id = other) (Ne.symm same)
        · exact State.attends_of_mem (below lower) own
      · exact absurd full room
      · refine .inr (.inr ?_)
        rw [load]
        exact busy
  · intro other jfc found moderating due
    have looks := (served.timers other jfc found moderating due).resolve_right room
    refine .inl (State.times_mono looks rfl ?_)
    intro task held own
    rw [shape] at held
    rcases List.mem_cons.mp held with rfl | lower
    · simp [Task.times, Task.kicks] at own
    · exact State.times_of_mem (below lower) own

/-- The loop ends: the publications that are left have to wait. -/
theorem admission_ended {id : Nat} {rest : List Task} (served : before.Served config strict)
    (shape : before.stack = .admitJfcPublications id :: rest)
    (blocked : before.pendingFor id ≠ [] →
      (config.pipelinedCompletionDma = true → (before.ring id).isSome = true) →
      before.Blocked config strict id) :
    ((before.withStack rest).push [.leaveJfcPublications id]).Served config strict := by
  refine served.reframe_top shape ⟨rfl, rfl, rfl, rfl, rfl, rfl⟩ (List.subset_cons_self _ _) ?_ ?_
  · intro other waiting present own
    obtain rfl : id = other := by simpa [Task.attends] using own
    exact .inr (blocked waiting present)
  · intro other _ _ own
    simp [Task.times, Task.kicks] at own

theorem admitJfcPublications_served {id : Nat} {rest : List Task}
    (served : before.Served config strict)
    (shape : before.stack = .admitJfcPublications id :: rest) :
    (admitJfcPublications config (before.withStack rest) id).Served config strict := by
  unfold admitJfcPublications
  split
  next missing =>
    have missing : before.jfcPublications.lookup id = none := missing
    refine served.reframe_top shape (.of_stack before rest) (List.Subset.refl rest) ?_ ?_
    · intro other waiting _ own
      obtain rfl : id = other := by simpa [Task.attends] using own
      simp [State.pendingFor, missing] at waiting
    · intro other _ _ own
      simp [Task.times, Task.kicks] at own
  next queue present =>
    have present : before.jfcPublications.lookup id = some queue := present
    split
    next empty =>
      refine admission_ended served shape fun waiting _ => absurd ?_ waiting
      rw [State.pendingFor_eq present, empty]
    next publication later _ =>
      split
      next admitted =>
        obtain ⟨_, free, _⟩ := admitted
        have granted := grant_served served shape queue publication later free
        rcases writeCqeNow_beside config
          (grant config (before.withStack rest) id queue publication later)
          (before.withStack rest).tickets id publication with still | roused
        · refine granted.still still ?_
          intro other own _ _
          obtain rfl := List.mem_singleton.mp own
          refine (grant_covered queue publication later).imp still.pushes.attends ?_
          rintro ⟨serial, loaded⟩
          refine .inr ⟨?_, fun _ pipelined => absurd pipelined serial⟩
          rw [State.load, still.queues]
          exact loaded
        · exact .of_alarmed roused.alarmed
      next refused =>
        refine admission_ended served shape fun _ known => ?_
        by_cases full : config.completionEventSlots ≤ before.completionEventSlotsInUse
        · exact .inl full
        · refine .inr ?_
          rw [State.load_eq present]
          by_cases pipelined : config.pipelinedCompletionDma = true
          · have closed : mayAdmit config (before.withStack rest) id queue ≠ true := by
              intro mayAdmit
              exact refused ⟨.inr pipelined, Nat.not_le.mp full, mayAdmit⟩
            obtain ⟨ring, own⟩ := Option.isSome_iff_exists.mp (known pipelined)
            obtain ⟨jfc, found, rfl⟩ := Option.map_eq_some_iff.mp own
            have lookup : (before.withStack rest).jfcs.lookup id = some jfc := found
            rw [mayAdmit, pipelined, lookup, Bool.not_true, Bool.false_or, Ne, Bool.or_eq_true,
              decide_eq_true_eq, beq_iff_eq, not_or, Nat.not_lt] at closed
            refine ⟨by simpa [PublicationQueue.load, pipelined] using closed.2, ?_⟩
            intro _ _ other same
            obtain rfl := Option.some.inj (own.symm.trans same)
            exact closed.1
          · have running : queue.running = true := by
              by_contra idle
              exact refused ⟨.inl idle, Nat.not_le.mp full, by simp [mayAdmit, pipelined]⟩
            exact ⟨by simp [PublicationQueue.load, pipelined, running],
              fun _ other => absurd other pipelined⟩

end Frames

/-! ## Steps -/

/-- Publications of JFC `id` wait although a slot is free, and the pump is not going to look
at them. -/
def State.Waits (config : Config) (state : State) (id : Nat) : Prop :=
  state.pendingFor id ≠ [] ∧ state.attends id = false ∧
    state.completionEventSlotsInUse < config.completionEventSlots

instance (config : Config) (state : State) (id : Nat) : Decidable (state.Waits config id) :=
  inferInstanceAs (Decidable (_ ∧ _ ∧ _))

/-- The JFC whose context arrives with this event. -/
def State.installsJfc (state : State) : Event → List Nat
  | .fire index ok bytes =>
      match state.outstanding[index]? with
      | some (.contextRead command) =>
          if ok && bytes.length == command.opcode.contextBytes then command.installs bytes else []
      | _ => []
  | _ => []

/-- In pipelined mode a consumer index that is read makes no room for publications that
wait: neither the one that a publication reads, behind the slot it takes itself, nor that
of a query command. -/
def NoRoomMade (config : Config) (before : State) (event : Event) : Prop :=
  config.pipelinedCompletionDma = true →
    (∀ index ∈ (before.input event).refresh, ∀ ring ∈ before.ring index.1,
      before.Waits config index.1 → ring.usedSince index.2 < ring.depth →
      ring.depth ≤ Ring.used { ring with consumer := index.2, producer := ring.producer + 1 }) ∧
    ∀ index ∈ (before.input event).query, ∀ ring ∈ before.ring index.1,
      before.Waits config index.1 → ring.depth ≤ Ring.used { ring with consumer := index.2 }

/-- In pipelined mode no JFC is installed for which publications wait. -/
def NoneAdopted (config : Config) (before : State) (event : Event) : Prop :=
  config.pipelinedCompletionDma = true →
    ∀ id ∈ before.installsJfc event, ¬ before.Waits config id

instance (config : Config) (before : State) (event : Event) :
    Decidable (NoRoomMade config before event) := inferInstanceAs (Decidable (_ → _ ∧ _))

instance (config : Config) (before : State) (event : Event) :
    Decidable (NoneAdopted config before event) := inferInstanceAs (Decidable (_ → _))

/-- The ring after a publication has read its consumer index. -/
theorem publish_ring (config : Config) (state : State) (ticket id : Nat)
    (publication : Publication) (consumer : Option Nat) :
    (publish config state ticket id publication consumer).ring id = state.ring id ∨
      ∃ ring index, consumer = some index ∧ state.ring id = some ring ∧
        ring.usedSince index < ring.depth ∧
        (publish config state ticket id publication consumer).ring id = some
          { ring with
            consumer := index
            producer := if config.pipelinedCompletionDma then ring.producer + 1
              else ring.producer } := by
  unfold publish
  split
  next index jfc found =>
    split
    next => exact .inl rfl
    next room =>
      refine .inr ⟨jfc.ring, index, rfl, by simp [State.ring, found], Nat.not_le.mp room, ?_⟩
      change (reserveCqe config state id jfc index).ring id = _
      unfold reserveCqe State.ring
      split <;> simp [Jfc.ring]
  next => exact .inl rfl

section Steps

variable {strict : Bool}

/-- A change of the ring of a JFC that is there, if it makes no room. -/
theorem State.Served.covered {events : Bool} {touched : List Nat} {id : Nat}
    (served : state.Served config strict) (still : Still events touched state after)
    (known : config.pipelinedCompletionDma = true → (state.ring id).isSome = true)
    (full : strict = true → config.pipelinedCompletionDma = true → state.Waits config id →
      (∀ ring, state.ring id = some ring → ring.depth ≤ ring.used) →
      ∀ ring, after.ring id = some ring → ring.depth ≤ ring.used)
    (waiting : after.pendingFor id ≠ []) :
    after.attends id = true ∨ after.Blocked config strict id := by
  have pending : after.pendingFor id = state.pendingFor id := by
    rw [State.pendingFor, still.queues]
    rfl
  have load : after.load config id = state.load config id := by
    rw [State.load, still.queues]
    rfl
  rw [pending] at waiting
  rcases served.publications id waiting known with looks | slots | ⟨loaded, behind⟩
  · exact .inl (still.pushes.attends looks)
  · exact .inr (.inl (still.slots ▸ slots))
  · by_cases looks : state.attends id = true
    · exact .inl (still.pushes.attends looks)
    · by_cases slots : config.completionEventSlots ≤ state.completionEventSlotsInUse
      · exact .inr (.inl (still.slots ▸ slots))
      · refine .inr (.inr ⟨load ▸ loaded, fun asked pipelined => ?_⟩)
        exact full asked pipelined
          ⟨waiting, Bool.eq_false_iff.mpr looks, Nat.not_le.mp slots⟩ (behind asked pipelined)

/-- The consumer index that a publication reads. -/
theorem State.Served.refreshed {index ticket id : Nat} {publication : Publication} {ok : Bool}
    {bytes : Bytes} (served : before.Served config strict)
    (found : before.outstanding[index]? = some (.consumerRead ticket id publication))
    (acted : environment config before (.fire index ok bytes) = some after)
    (still : Still false [id] before after)
    (room : strict = true → NoRoomMade config before (.fire index ok bytes))
    (waiting : after.pendingFor id ≠ [])
    (known : config.pipelinedCompletionDma = true → (after.ring id).isSome = true) :
    after.attends id = true ∨ after.Blocked config strict id := by
  simp only [Cq.environment, found, Option.some.injEq] at acted
  rcases publish_ring config (before.withOutstanding (before.outstanding.eraseIdx index)) ticket id
    publication (consumerIndex ok bytes) with same | ⟨old, fresh, read, present, free, moved⟩
  · have ring : after.ring id = before.ring id := by
      subst acted
      exact same
    refine served.covered still (fun pipelined => ring ▸ known pipelined) ?_ waiting
    intro _ _ _ behind ring' own
    exact behind ring' (ring ▸ own)
  · have present : before.ring id = some old := present
    refine served.covered still (fun _ => by simp [present]) ?_ waiting
    intro asked pipelined waits _ ring own
    have arrives : (before.input (.fire index ok bytes)).refresh = some (id, fresh) := by
      simp [State.input, found, Callback.input, read]
    have full := (room asked pipelined).1 (id, fresh) arrives old present waits free
    rw [pipelined, if_pos rfl] at moved
    subst acted
    obtain rfl := Option.some.inj (moved.symm.trans own)
    exact full

/-- The consumer index that a query command reads. -/
theorem State.Served.queried {index : Nat} {command : Command} {ok : Bool} {bytes : Bytes}
    (served : before.Served config strict)
    (found : before.outstanding[index]? = some (.queryRead command))
    (acted : environment config before (.fire index ok bytes) = some after)
    (still : Still false [command.tag] before after)
    (room : strict = true → NoRoomMade config before (.fire index ok bytes))
    (waiting : after.pendingFor command.tag ≠ [])
    (known : config.pipelinedCompletionDma = true → (after.ring command.tag).isSome = true) :
    after.attends command.tag = true ∨ after.Blocked config strict command.tag := by
  simp only [Cq.environment, found, Option.some.injEq] at acted
  rcases queryRead_cases (before.withOutstanding (before.outstanding.eraseIdx index)) command ok
    bytes with same | ⟨jfc, present, landed, size, same⟩
  · have ring : after.ring command.tag = before.ring command.tag := by
      rw [acted.symm.trans same]
      rfl
    refine served.covered still (fun pipelined => ring ▸ known pipelined) ?_ waiting
    intro _ _ _ behind ring' own
    exact behind ring' (ring ▸ own)
  · have old : before.ring command.tag = some jfc.ring := Jfc.lookup_of_ring present
    have ring : after.ring command.tag =
        some { jfc.ring with consumer := load32 bytes 0 &&& indexMask } := by
      rw [acted.symm.trans same]
      simp [State.ring, Jfc.ring]
    refine served.covered still (fun _ => by simp [old]) ?_ waiting
    intro asked pipelined waits _ next own
    have arrives : (before.input (.fire index ok bytes)).query =
        some (command.tag, load32 bytes 0 &&& indexMask) := by
      simp [State.input, found, Callback.input, consumerIndex, landed, size]
    have full := (room asked pipelined).2 _ arrives jfc.ring old waits
    obtain rfl := Option.some.inj (ring.symm.trans own)
    exact full

/-- The context of a new JFC. -/
theorem State.Served.adopted {touched : List Nat} {id : Nat} (served : before.Served config strict)
    (still : Still false touched before after)
    (settled : config.pipelinedCompletionDma = true → ¬ before.Waits config id)
    (waiting : after.pendingFor id ≠ []) :
    after.attends id = true ∨ after.Blocked config strict id := by
  by_cases pipelined : config.pipelinedCompletionDma = true
  · have pending : after.pendingFor id = before.pendingFor id := by
      rw [State.pendingFor, still.queues]
      rfl
    rw [pending] at waiting
    by_cases looks : before.attends id = true
    · exact .inl (still.pushes.attends looks)
    · by_cases slots : config.completionEventSlots ≤ before.completionEventSlotsInUse
      · exact .inr (.inl (still.slots ▸ slots))
      · exact absurd ⟨waiting, Bool.eq_false_iff.mpr looks, Nat.not_le.mp slots⟩ (settled pipelined)
  · exact served.covered still (fun other => absurd other pipelined)
      (fun _ other => absurd other pipelined) waiting

/-- A step of a party outside. -/
theorem State.Served.environment (served : before.Served config strict)
    (acted : environment config before event = some after)
    (room : strict = true → NoRoomMade config before event)
    (adopted : NoneAdopted config before event) : after.Served config strict := by
  rcases environment_beside acted with still | roused
  · refine served.still still ?_
    intro id inside waiting known
    cases event with
    | fire index ok bytes =>
        cases found : before.outstanding[index]? with
        | none => simp [State.touches, found] at inside
        | some callback =>
            have touches : before.touches (.fire index ok bytes) = callback.touches ok bytes := by
              simp [State.touches, found]
            rw [touches] at inside still
            cases callback with
            | consumerRead ticket own publication =>
                obtain rfl := List.mem_singleton.mp inside
                exact served.refreshed found acted still room waiting known
            | queryRead command =>
                obtain rfl := List.mem_singleton.mp inside
                exact served.queried found acted still room waiting known
            | contextRead command =>
                refine served.adopted still (fun pipelined => adopted pipelined id ?_) waiting
                simpa [State.installsJfc, found, Callback.touches] using inside
            | _ => simp [Callback.touches] at inside
    | _ => simp [State.touches] at inside
  · exact .of_alarmed roused.alarmed

theorem State.Served.step (framed : before.Framed) (served : before.Served config strict)
    (taken : step config before event = some after)
    (room : strict = true → NoRoomMade config before event)
    (adopted : NoneAdopted config before event) : after.Served config strict := by
  rcases step_kinds taken with ⟨task, rest, _, shape, ran⟩ | ⟨expired, rest, shape, order, rfl⟩ |
    acted
  · cases task with
    | pumpCompletionWork =>
        obtain rfl := Option.some.inj ran
        exact pumpCompletionWork_served _
    | pumpPass => simp [runTask] at ran
    | pumpTimers expired =>
        obtain rfl := Option.some.inj ran
        exact pumpTimers_served served shape
    | pumpQueues ids =>
        obtain rfl := Option.some.inj ran
        exact pumpQueues_served served shape
    | processJfcPublications id =>
        obtain rfl := Option.some.inj ran
        exact processJfcPublications_served framed served shape
    | admitJfcPublications id =>
        obtain rfl := Option.some.inj ran
        exact admitJfcPublications_served served shape
    | leaveJfcPublications id =>
        obtain rfl := Option.some.inj ran
        exact leaveJfcPublications_served served shape
    | releasePublication id =>
        exact .of_alarmed (runTask_roused rfl (by simp) ran).alarmed
    | releaseCompletionEventSlot ticket =>
        exact .of_alarmed (runTask_roused rfl (by simp) ran).alarmed
    | _ =>
        rcases runTask_beside rfl rfl ran with still | roused
        · exact (served.pop shape rfl rfl).still still (by simp)
        · exact .of_alarmed roused.alarmed
  · exact beginPass_served order
  · exact served.environment acted room adopted

theorem State.Framed.step (framed : before.Framed) (taken : step config before event = some after) :
    after.Framed := by
  rcases step_kinds taken with ⟨task, rest, _, shape, ran⟩ | ⟨expired, rest, shape, _, rfl⟩ | acted
  · cases task with
    | pumpCompletionWork =>
        obtain rfl := Option.some.inj ran
        exact pumpCompletionWork_framed (framed.pop shape rfl)
    | pumpPass => simp [runTask] at ran
    | pumpTimers expired =>
        obtain rfl := Option.some.inj ran
        exact pumpTimers_framed framed shape
    | pumpQueues ids =>
        obtain rfl := Option.some.inj ran
        exact pumpQueues_framed framed shape
    | processJfcPublications id =>
        obtain rfl := Option.some.inj ran
        exact processJfcPublications_framed framed shape
    | admitJfcPublications id =>
        obtain rfl := Option.some.inj ran
        exact admitJfcPublications_framed framed shape
    | leaveJfcPublications id =>
        obtain rfl := Option.some.inj ran
        exact leaveJfcPublications_framed framed shape
    | releasePublication id =>
        exact (framed.pop shape rfl).beside
          (show Beside false [] _ _ from .inr (runTask_roused rfl (by simp) ran))
    | releaseCompletionEventSlot ticket =>
        exact (framed.pop shape rfl).beside
          (show Beside false [] _ _ from .inr (runTask_roused rfl (by simp) ran))
    | _ => exact (framed.pop shape rfl).beside (runTask_beside rfl rfl ran)
  · exact beginPass_framed framed shape
  · exact framed.beside (environment_beside acted)

theorem framed_of_reaches {guard : State → Event → State → Prop}
    (reached : Reaches (Cq.step config) guard .initial state) : state.Framed := by
  refine reached.induction_on State.Framed ?_ ?_
  · exact ⟨.idle, by simp [State.initial], by simp [State.initial]⟩
  · intro before event after _ framed taken _
    exact framed.step taken

/-- At rest no call of the pump is due. -/
theorem State.Framed.rests (framed : state.Framed) (rest : state.stack = []) (id : Nat) :
    state.attends id = false ∧ state.times id = false := by
  have quiet : state.completionWorkKick = false := by
    by_contra kicked
    have flag := framed.kicked (by simpa using kicked)
    have pumping := framed.frames
    rw [State.frames, rest, flag] at pumping
    cases pumping
  simp [State.attends, State.times, quiet, rest]

end Steps

end Udma.Cq
