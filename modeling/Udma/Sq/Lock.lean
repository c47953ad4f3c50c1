import Udma.Collections.Tally
import Udma.Sq.Reach

/-!
# The dispatch and fetch locks

`dispatching` admits one activation of the loop of `ProcessSq`, `fetching` one
descriptor between its fetch and its reservation, and `ordered` closes the queue
behind a fenced descriptor.  The lock invariant counts, for one lane, the
activations and callbacks that own each flag.
-/

namespace Udma.Sq

open Udma.Abi Udma.Arithmetic Udma.Collections Udma.Transition

/-- An activation of the loop of `ProcessSq`. -/
def Task.looping : Task → Bool
  | .processSqLoop _ _ _ => true
  | _ => false

/-- An activation that has passed the tests of `ProcessSqOnce` and not yet taken a
descriptor. -/
def Task.filling : Task → Bool
  | .processSqLoop _ _ (.fill _) => true
  | .processSqLoop _ _ (.head _) => true
  | _ => false

/-- An activation that owns `fetching` and has not reserved its descriptor. -/
def Task.fetching : Task → Bool
  | .continueSqWqe _ _ _ _ => true
  | .handleSqWqe _ _ => true
  | .submitSqPayload _ _ _ none => true
  | _ => false

/-- An activation that owns `fetching` behind its reservation. -/
def Task.releasing : Task → Bool
  | .releaseSqFetch _ => true
  | _ => false

/-- A callback that owns `fetching`. -/
def Callback.fetching : Callback → Bool
  | .continuation _ _ _ _ _ => true
  | .sendPayload _ _ _ => true
  | _ => false

attribute [simp] Task.looping Task.filling Task.fetching Task.releasing Callback.fetching

attribute [simp] Lane.pipe Lane.context

/-- The lock protocol of one lane: how many activations and callbacks rely on each
flag, the flags, and whether an unretired entry is fenced. -/
structure Gate where
  loops : Nat
  fills : Nat
  fetches : Nat
  releases : Nat
  dispatching : Bool
  fetching : Bool
  ordered : Bool
  fenced : Bool

namespace Gate

structure Sound (gate : Gate) : Prop where
  dispatch : gate.loops ≤ gate.dispatching.toNat
  fetch : gate.fetches + gate.releases ≤ gate.fetching.toNat
  nested : gate.fills ≤ gate.loops
  filling : 0 < gate.fills → gate.fetching = false ∧ gate.ordered = false
  reserving : 0 < gate.fetches → gate.ordered = false
  closed : gate.fenced = true → gate.ordered = true

variable {loops fills fetches releases : Nat} {dispatching fetching ordered fenced : Bool}

/-- `ProcessSq` enters its loop. -/
theorem Sound.enter
    (sound : Sound ⟨loops, fills, fetches, releases, false, fetching, ordered, fenced⟩) :
    Sound ⟨1 + loops, fills, fetches, releases, true, fetching, ordered, fenced⟩ := by
  have dispatch : loops ≤ 0 := sound.dispatch
  have nested : fills ≤ loops := sound.nested
  exact ⟨by simp; omega, sound.fetch, by simp; omega, sound.filling, sound.reserving,
    sound.closed⟩

theorem Sound.leave
    (sound : Sound ⟨1 + loops, fills, fetches, releases, dispatching, fetching, ordered, fenced⟩)
    (checking : fills ≤ loops) :
    Sound ⟨loops, fills, fetches, releases, false, fetching, ordered, fenced⟩ := by
  have dispatch : 1 + loops ≤ dispatching.toNat := sound.dispatch
  have single := Bool.toNat_le dispatching
  exact ⟨by simp; omega, sound.fetch, checking, sound.filling, sound.reserving, sound.closed⟩

/-- The loop passes the tests of `ProcessSqOnce`. -/
theorem Sound.fill
    (sound : Sound ⟨1 + loops, fills, fetches, releases, dispatching, false, false, fenced⟩)
    (checking : fills ≤ loops) :
    Sound ⟨1 + loops, 1 + fills, fetches, releases, dispatching, false, false, fenced⟩ :=
  ⟨sound.dispatch, sound.fetch, by simp; omega, by simp, sound.reserving, sound.closed⟩

/-- The loop goes back to its test. -/
theorem Sound.again
    (sound : Sound
      ⟨1 + loops, 1 + fills, fetches, releases, dispatching, fetching, ordered, fenced⟩) :
    Sound ⟨1 + loops, fills, fetches, releases, dispatching, fetching, ordered, fenced⟩ := by
  have nested : 1 + fills ≤ 1 + loops := sound.nested
  exact ⟨sound.dispatch, sound.fetch, by simp; omega,
    fun _ => sound.filling (by dsimp only; omega), sound.reserving, sound.closed⟩

/-- A descriptor is taken. -/
theorem Sound.take
    (sound : Sound ⟨1 + loops, fills, fetches, releases, dispatching, false, false, fenced⟩)
    (checking : fills ≤ loops) :
    Sound ⟨1 + loops, fills, 1 + fetches, releases, dispatching, true, false, fenced⟩ := by
  have dispatch : 1 + loops ≤ dispatching.toNat := sound.dispatch
  have single := Bool.toNat_le dispatching
  have fetch : fetches + releases ≤ 0 := sound.fetch
  have empty : fills = 0 := by omega
  exact ⟨sound.dispatch, by simp; omega, sound.nested, by simp [empty], by simp, sound.closed⟩

/-- The descriptor that is taken gets its entry; a fenced one closes the queue. -/
theorem Sound.reserve
    (sound : Sound
      ⟨loops, fills, 1 + fetches, releases, dispatching, fetching, ordered, fenced⟩)
    (closing : Bool) :
    Sound ⟨loops, fills, fetches, 1 + releases, dispatching, fetching, closing,
      fenced || closing⟩ := by
  obtain ⟨dispatch, fetch, nested, filling, reserving, closed⟩ := sound
  dsimp only at *
  have single := Bool.toNat_le fetching
  have held : fetching = true := by
    cases fetching with
    | true => rfl
    | false => simp at fetch
  have unordered : ordered = false := reserving (by omega)
  have unfenced : fenced = false := by
    cases fenced with
    | false => rfl
    | true => simp [closed rfl] at unordered
  have notFilling : fills = 0 := by
    by_contra some
    have := (filling (by omega)).1
    simp [held] at this
  refine ⟨dispatch, by dsimp only; omega, nested, by simp [notFilling], ?_, by simp [unfenced]⟩
  intro other
  dsimp only at other
  omega

/-- The fetch is given up or released. -/
theorem Sound.release
    (sound : Sound ⟨loops, fills, fetches, releases, dispatching, fetching, ordered, fenced⟩)
    {fetches' releases' : Nat} (owned : fetches' + releases' < fetches + releases) :
    Sound ⟨loops, fills, fetches', releases', dispatching, false, ordered, fenced⟩ := by
  obtain ⟨dispatch, fetch, nested, filling, reserving, closed⟩ := sound
  dsimp only at *
  have single := Bool.toNat_le fetching
  have held : fetching = true := by
    cases fetching with
    | true => rfl
    | false => simp at fetch; omega
  refine ⟨dispatch, by simp; omega, nested, ?_, ?_, closed⟩
  · intro some
    have := (filling some).1
    simp [held] at this
  · intro some
    dsimp only at some
    omega

/-- Activations and callbacks that rely on the flags disappear. -/
theorem Sound.weaken
    (sound : Sound ⟨loops, fills, fetches, releases, dispatching, fetching, ordered, fenced⟩)
    {loops' fills' fetches' releases' : Nat} (nested : fills' ≤ loops')
    (fewerLoops : loops' ≤ loops) (fewerFills : fills' ≤ fills)
    (fewerFetches : fetches' ≤ fetches) (fewerReleases : releases' ≤ releases) :
    Sound ⟨loops', fills', fetches', releases', dispatching, fetching, ordered, fenced⟩ := by
  obtain ⟨dispatch, fetch, _, filling, reserving, closed⟩ := sound
  dsimp only at *
  refine ⟨by dsimp only; omega, by dsimp only; omega, nested, ?_, ?_, closed⟩
  · intro some
    exact filling (by dsimp only at some; omega)
  · intro some
    exact reserving (by dsimp only at some; omega)

/-- Entries retire; the queue opens when none is left. -/
theorem Sound.retire {requests : List SqRequest}
    (sound : Sound ⟨loops, fills, fetches, releases, dispatching, fetching, ordered,
      requests.any SqRequest.ordered⟩)
    {rest : List SqRequest} (subset : rest ⊆ requests) :
    Sound ⟨loops, fills, fetches, releases, dispatching, fetching, ordered && !rest.isEmpty,
      rest.any SqRequest.ordered⟩ := by
  obtain ⟨dispatch, fetch, nested, filling, reserving, closed⟩ := sound
  dsimp only at *
  refine ⟨dispatch, fetch, nested, ?_, ?_, ?_⟩
  · intro some
    simp [filling some]
  · intro some
    simp [reserving some]
  · intro kept
    obtain ⟨request, membership, fenced⟩ := List.any_eq_true.mp kept
    have before : ordered = true :=
      closed (List.any_eq_true.mpr ⟨request, subset membership, fenced⟩)
    have nonempty : rest ≠ [] := List.ne_nil_of_mem membership
    simp [before, nonempty]

end Gate

namespace Lane

def gate (lane : Lane) : Gate where
  loops := tally Task.looping lane.tasks
  fills := tally Task.filling lane.tasks
  fetches := tally Task.fetching lane.tasks + tally Callback.fetching lane.calls
  releases := tally Task.releasing lane.tasks
  dispatching := lane.pipe.dispatching
  fetching := lane.pipe.fetching
  ordered := lane.pipe.ordered
  fenced := (lane.pipe.completions.map SqCompletion.request).any SqRequest.ordered

def Locked (lane : Lane) : Prop := lane.gate.Sound

theorem fills_le_loops (tasks : List Task) :
    tally Task.filling tasks ≤ tally Task.looping tasks := by
  refine tally_mono ?_ tasks
  intro task filling
  cases task <;> simp_all

end Lane

/-- The flags that the first test of `ProcessSqOnce` finds clear. -/
theorem SqPipeline.clear_of_not_blocked {config : Config} {pipe : SqPipeline}
    (clear : pipe.blocked config = false) :
    pipe.fetching = false ∧ pipe.ordered = false ∧ pipe.prefetchFailed = false ∧
      pipe.preparedWrites.length < config.writePayloadReadWindow := by
  simpa [blocked, and_assoc] using clear

theorem completions_requests_complete (request : SqRequest) (status substatus : Nat)
    (completions : List SqCompletion) :
    (markFirst request.names (fun found => found.complete request status substatus)
      completions).map SqCompletion.request = completions.map SqCompletion.request := by
  apply map_markFirst
  intro found
  rfl

theorem completions_requests_start (completions : List SqCompletion) :
    (markFirst SqCompletion.unstarted SqCompletion.start completions).map
      SqCompletion.request = completions.map SqCompletion.request := by
  apply map_markFirst
  intro found
  rfl

theorem completions_requests_finish (entry : SqCompletion) (completions : List SqCompletion) :
    (markFirst entry.sameIndex SqCompletion.finish completions).map
      SqCompletion.request = completions.map SqCompletion.request := by
  apply map_markFirst
  intro found
  rfl

theorem Ran.locked {config : Config} {base after : State} {id : Nat} {task : Task}
    (ran : Ran config base id task after)
    (locked : ((base.push [task]).lane id).Locked) : (after.lane id).Locked := by
  have nested := Lane.fills_le_loops (base.lane id).tasks
  unfold Lane.Locked Lane.gate at locked ⊢
  cases ran with
  | absent task missing silent =>
      simp only [State.lane_push, tally_append] at locked
      exact locked.weaken nested (by omega) (by omega) (by omega) (by omega)
  | completeAbsent => simpa using locked
  | processSq producer direct jetty _ existing outcome =>
      have same := base.lane_jetty id existing
      cases outcome with
      | kicked dispatching => simpa [same] using locked
      | entered idle =>
          simp [same, idle] at locked
          simpa [same] using locked.enter
  | resumeSq jetty _ existing outcome =>
      have same := base.lane_jetty id existing
      cases outcome with
      | kicked dispatching => simpa [same] using locked
      | entered idle =>
          simp [same, idle] at locked
          simpa [same] using locked.enter
  | processSqLoop producer jetty _ existing outcome =>
      have same := base.lane_jetty id existing
      simp only [State.lane_push, Lane.pipe, same] at locked
      cases outcome with
      | left quiet =>
          simp at locked
          simpa [same] using locked.leave nested
      | blocked stopped => simpa [same] using locked
      | caughtUp clear level => simpa [same] using locked
      | tooFar clear far => simpa [same] using locked
      | direct clear near pending level =>
          obtain ⟨fetching, ordered, _, _⟩ := SqPipeline.clear_of_not_blocked clear
          simp [fetching, ordered] at locked
          simpa [same, ordered, Nat.add_assoc] using locked.take nested
      | filling clear behind near =>
          obtain ⟨fetching, ordered, _, _⟩ := SqPipeline.clear_of_not_blocked clear
          simp [fetching, ordered] at locked
          simpa [same, fetching, ordered] using locked.fill nested
  | fillSqCache producer targetProducer jetty _ existing outcome =>
      have same := base.lane_jetty id existing
      cases outcome <;> simpa [same] using locked
  | executeSqHead producer targetProducer jetty _ existing outcome =>
      have same := base.lane_jetty id existing
      simp only [State.lane_push, Lane.pipe, same] at locked
      simp at locked
      have clear := locked.filling (by dsimp only; omega)
      dsimp only at clear
      replace locked := locked.again
      cases outcome with
      | failed | absent | incomplete => simpa [same] using locked
      | malformed => simpa [same] using locked
      | handed =>
          rw [clear.1, clear.2] at locked
          simpa [same, clear, Nat.add_assoc] using locked.take nested
      | oversized =>
          rw [clear.1, clear.2] at locked
          simpa [same, clear, Nat.add_assoc] using locked.take nested
  | continueLast raw nextSlot => simpa using locked
  | continueRead raw remaining nextSlot jetty existing more =>
      simpa [Nat.add_comm, Nat.add_left_comm, Nat.add_assoc] using locked
  | handleSqWqe raw jetty _ existing outcome =>
      have same := base.lane_jetty id existing
      simp only [State.lane_push, Lane.pipe, same] at locked
      simp [Nat.add_assoc] at locked
      cases outcome with
      | failed =>
          simpa [Jetty.fail, Jetty.release] using locked.release (by omega)
      | released =>
          simpa [Jetty.release] using locked.release (by omega)
      | read =>
          simpa [reserveSq, SqPipeline.reserve] using
            locked.reserve (jetty.requestFor raw (SqWqe.firstSge raw).length).ordered
      | prepared =>
          simpa [prepareWrite, reserveSq, SqPipeline.reserve, Jetty.requestFor] using
            locked.reserve (jetty.requestFor raw (SqWqe.firstSge raw).length).ordered
      | rejected route length =>
          simpa [rejectSend, reserveSq, SqPipeline.reserve, Jetty.requestFor] using
            locked.reserve (jetty.requestFor raw length).ordered
      | inlined => simpa [same, Nat.add_assoc] using locked
      | reading => simpa [same, Nat.add_comm, Nat.add_left_comm, Nat.add_assoc] using locked
  | drainPreparedWrites jetty _ existing outcome =>
      have same := base.lane_jetty id existing
      cases outcome <;> simpa [same] using locked
  | submitSqPayload raw payload reserved jetty _ existing outcome =>
      have same := base.lane_jetty id existing
      simp only [State.lane_push, Lane.pipe, same] at locked
      cases outcome with
      | released =>
          simp [Nat.add_assoc] at locked
          simpa [Jetty.release] using locked.release (by omega)
      | lost =>
          simp only [tally_append] at locked
          simpa [same] using
            locked.weaken nested (by omega) (by omega) (by omega) (by omega)
      | freshSend =>
          simp [Nat.add_assoc] at locked
          simpa [reserveSq, SqPipeline.reserve] using
            locked.reserve (jetty.requestFor raw payload.length).ordered
      | freshWrite =>
          simp [Nat.add_assoc] at locked
          simpa [reserveSq, SqPipeline.reserve] using
            locked.reserve (jetty.requestFor raw payload.length).ordered
      | heldSend => simpa [same] using locked
      | heldWrite => simpa [same] using locked
  | releaseSqFetch jetty existing =>
      have same := base.lane_jetty id existing
      simp only [State.lane_push, Lane.pipe, same] at locked
      simp at locked
      simpa [Jetty.release] using locked.release (by omega)
  | completeSq request status substatus jetty _ existing outcome =>
      have same := base.lane_jetty id existing
      cases outcome with
      | ignored => simpa [same] using locked
      | marked entry found waiting size =>
          have kept := completions_requests_complete request status substatus
            jetty.pipe.completions
          simpa [same, kept, -List.any_map] using locked
  | retireSq jetty _ existing outcome =>
      have same := base.lane_jetty id existing
      cases outcome with
      | skipped => simpa [same] using locked
      | entered =>
          unfold retireLoop
          split <;> simpa [same] using locked
  | retireSqLoop jetty _ existing outcome =>
      have same := base.lane_jetty id existing
      cases outcome with
      | stopped => simpa [same] using locked
      | published =>
          unfold publishSq
          split <;> simpa [same] using locked
  | retireSqPipelinedLoop jetty _ existing outcome =>
      have same := base.lane_jetty id existing
      cases outcome with
      | stopped => simpa [same] using locked
      | published =>
          have kept := completions_requests_start jetty.pipe.completions
          unfold publishSq
          split <;> simpa [same, kept, -List.any_map] using locked
  | finishKept entry => simpa using locked
  | finishPopped entry jetty existing =>
      have same := base.lane_jetty id existing
      simp [same, -List.any_map] at locked
      have popped := locked.retire
        (List.map_subset SqCompletion.request
          (List.tail_suffix jetty.pipe.completions).subset)
      simpa [SqPipeline.pop, -List.any_map, -List.map_tail] using popped
  | finishSqPipelined entry ok jetty _ existing outcome =>
      have same := base.lane_jetty id existing
      cases outcome with
      | broken => simpa [same] using locked
      | retired current marked good found started waiting marking =>
          have kept : marked.map SqCompletion.request =
              jetty.pipe.completions.map SqCompletion.request := by
            rw [marking]
            exact completions_requests_finish entry jetty.pipe.completions
          simp [same, -List.any_map, ← kept] at locked
          have popped := locked.retire
            (List.map_subset SqCompletion.request
              (List.dropWhile_suffix (fun found => found.publicationDone)).subset)
          simpa [SqPipeline.retire, -List.any_map] using popped

/-- While a descriptor is between fetch and reservation, the loop is not filling the
cache. -/
theorem Lane.Locked.fills_eq_zero {base : State} {id : Nat} {task : Task}
    (locked : ((base.push [task]).lane id).Locked) (own : task.on id = true)
    (taking : task.fetching = true) : tally Task.filling (base.lane id).tasks = 0 := by
  have fetch := locked.fetch
  have filling := locked.filling
  simp only [Lane.gate, State.lane_push, List.filter_cons_of_pos own, List.filter_nil,
    List.cons_append, List.nil_append, tally_cons, taking, Bool.toNat_true] at fetch filling
  by_contra some
  have clear := (filling (by omega)).1
  simp only [Lane.pipe] at clear fetch
  rw [clear] at fetch
  simp at fetch

/-- The order in which callbacks are held does not matter. -/
theorem Lane.Locked.perm {lane : Lane} {calls : List Callback} (locked : lane.Locked)
    (same : lane.calls.Perm calls) : Lane.Locked { lane with calls := calls } := by
  unfold Lane.Locked Lane.gate at locked ⊢
  simpa [← tally_perm same] using locked

theorem Called.locked {config : Config} {base after : State} {ok : Bool} {bytes : Bytes}
    {id : Nat} {callback : Callback}
    (called : Called config base ok bytes id callback after) (own : callback.on id = true)
    (locked : Lane.Locked { base.lane id with calls := callback :: (base.lane id).calls }) :
    (after.lane id).Locked := by
  have nested := Lane.fills_le_loops (base.lane id).tasks
  unfold Lane.Locked Lane.gate at locked ⊢
  cases called with
  | absent callback missing =>
      simp only [tally_cons] at locked
      exact locked.weaken nested (by omega) (by omega) (by omega) (by omega)
  | prefetch start count jetty _ existing outcome =>
      have same := base.lane_jetty id existing
      cases outcome <;> simpa [same, SqPipeline.prefetched] using locked
  | continuation raw remaining nextSlot contiguous jetty _ existing outcome =>
      have same := base.lane_jetty id existing
      simp [same, Nat.add_left_comm] at locked
      cases outcome with
      | failed => simpa [Jetty.fail, Jetty.release] using locked.release (by omega)
      | arrived => simpa [same, Nat.add_assoc] using locked
  | writePayload position expected jetty existing =>
      have same := base.lane_jetty id existing
      simpa [same] using locked
  | sendPayload raw expected jetty _ existing outcome =>
      have same := base.lane_jetty id existing
      simp [same, Nat.add_left_comm] at locked
      cases outcome with
      | failed => simpa [Jetty.fail, Jetty.release] using locked.release (by omega)
      | arrived => simpa [same, Nat.add_assoc] using locked
  | sendFailed request requestId bad =>
      split
      · simpa [State.lane] using locked
      · simpa using locked
  | writeSent request requestId good opcode => simpa using locked
  | sendDone request requestId good opcode => simpa using locked
  | cqe entry => split <;> simpa using locked

theorem Jetty.Fresh.locked {lane : Lane} {jetty : Jetty} (fresh : jetty.Fresh)
    (missing : lane.jetty = .blank) (locked : lane.Locked) :
    Lane.Locked { lane with jetty := jetty } := by
  unfold Lane.Locked Lane.gate at locked ⊢
  simpa [missing, fresh.pipe] using locked

theorem Acts.locked {config : Config} {id : Nat} {state after : State} {event : Event}
    (acts : Acts config id state event after) (locked : (state.lane id).Locked) :
    (after.lane id).Locked := by
  cases acts with
  | task base task _ before own calm ran => exact ran.locked (before ▸ locked)
  | callback index ok bytes callback calls base _ own calm before chosen held called =>
      refine called.locked own ?_
      rw [before, State.lane_holding] at locked
      refine locked.perm ?_
      have := held.filter (Callback.on id)
      rwa [List.filter_cons_of_pos own] at this
  | progressed _ _ pending progress earlier later observed calm held owner request silent lane =>
      rw [lane]
      exact locked
  | finished _ _ pending earlier later status calm held lane =>
      rw [lane]
      unfold Lane.Locked Lane.gate at locked ⊢
      simpa using locked
  | doorbell producer calm =>
      unfold Lane.Locked Lane.gate at locked ⊢
      simpa using locked
  | direct offset data jetty _ calm existing outcome =>
      have same := state.lane_jetty id existing
      unfold Lane.Locked Lane.gate at locked ⊢
      cases outcome with
      | stored => simpa [same, Jetty.pipe] using locked
      | completed => simpa [same, Jetty.pipe] using locked
  | created context jetty calm missing fresh =>
      rw [State.lane_setJetty]
      exact fresh.locked missing locked

theorem State.initial_lane (config : Config) (id : Nat) :
    (State.initial config).lane id = ⟨.blank, [], [], [], []⟩ := rfl

theorem locked_of_reaches {config : Config} {guard : State → Event → State → Prop}
    {state : State} (reached : Reaches (step config) guard (State.initial config) state)
    (id : Nat) : (state.lane id).Locked := by
  refine lane_of_reaches id Lane.Locked reached ?_ ?_
  · rw [State.initial_lane]
    exact ⟨by simp [Lane.gate], by simp [Lane.gate], by simp [Lane.gate], by simp [Lane.gate],
      by simp [Lane.gate], by simp [Lane.gate]⟩
  · intro before event after earlier locked acts _ _
    exact acts.locked locked

end Udma.Sq
