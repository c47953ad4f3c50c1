import Udma.Sq.Lock

/-!
# Producer values

The guest counts the blocks it has posted with an unbounded producer.  A doorbell
carries the low 32 bits of it and a direct descriptor the low 16; the engine completes
the latter from `issue` and merges both into `target_producer` by a signed comparison.
An activation of `ProcessSq` merges its producer again in every round of its loop.
-/

namespace Udma.Sq

open Udma.Abi Udma.Arithmetic Udma.Collections Udma.Transition

/-! ## The producer of a direct descriptor -/

/-- The only producer from `issue` on, less than `2 ^ 16` ahead of it, with these low bits. -/
def postedProducer (issue low : Nat) : Nat := issue + (low + 2 ^ 16 - issue % 2 ^ 16) % 2 ^ 16

theorem postedProducer_spec (issue : Nat) {low : Nat} (small : low < 2 ^ 16) :
    issue ≤ postedProducer issue low ∧ postedProducer issue low < issue + 2 ^ 16 ∧
      postedProducer issue low % 2 ^ 16 = low := by
  unfold postedProducer
  omega

theorem highBits (base : Nat) (small : base < 2 ^ 32) :
    base &&& 0xffff0000 = (base >>> 16) <<< 16 := by
  have mask : 0xffff0000 = (2 ^ 16 - 1) <<< 16 := rfl
  apply Nat.eq_of_testBit_eq
  intro index
  rw [mask, Nat.testBit_and, Nat.testBit_shiftLeft, Nat.testBit_shiftLeft,
    Nat.testBit_shiftRight, Nat.testBit_two_pow_sub_one]
  by_cases high : 16 ≤ index
  · have back : 16 + (index - 16) = index := by omega
    rw [back]
    by_cases inside : index < 32
    · have : index - 16 < 16 := by omega
      simp [high, this]
    · have clear : base.testBit index = false :=
        Nat.testBit_lt_two_pow (Nat.lt_of_lt_of_le small (Nat.pow_le_pow_right (by decide) (by omega)))
      simp [clear]
  · simp [high]

/-- The low bits of a producer in the window are completed to its low 32 bits. -/
theorem directProducer_of_window {issue producer : Nat} (behind : issue ≤ producer)
    (near : producer < issue + 2 ^ 16) :
    directProducer issue (producer % 2 ^ 16) = producer % 2 ^ 32 := by
  have low : producer % 2 ^ 16 < 2 ^ 16 := Nat.mod_lt _ (by decide)
  unfold directProducer
  dsimp only
  rw [highBits _ (Nat.mod_lt _ (by decide)), ← Nat.shiftLeft_add_eq_or_of_lt low,
    Nat.shiftRight_eq_div_pow, Nat.shiftLeft_eq]
  split <;> omega

/-! ## Merging -/

/-- The signed comparison of two counters that are less than half the range apart. -/
theorem ahead32_of_later {base value : Nat} (later : base < value)
    (near : value < base + 2 ^ 31) : ahead32 (value % 2 ^ 32) (base % 2 ^ 32) = true := by
  have distance : sub32 (value % 2 ^ 32) (base % 2 ^ 32) = value - base := by
    unfold sub32
    omega
  simp only [ahead32, distance, Bool.and_eq_true, decide_eq_true_eq]
  omega

theorem ahead32_of_earlier {base value : Nat} (earlier : value ≤ base)
    (near : base ≤ value + 2 ^ 31) : ahead32 (value % 2 ^ 32) (base % 2 ^ 32) = false := by
  have distance : sub32 (value % 2 ^ 32) (base % 2 ^ 32) = 0 ∨
      2 ^ 31 ≤ sub32 (value % 2 ^ 32) (base % 2 ^ 32) := by
    unfold sub32
    omega
  simp only [ahead32, Bool.and_eq_false_iff, decide_eq_false_iff_not]
  omega

theorem QueueContext.mergeProducer_max {context : QueueContext} {latest value : Nat}
    (level : context.targetProducer = latest % 2 ^ 32) (above : value < latest + 2 ^ 31)
    (below : latest ≤ value + 2 ^ 31) :
    (context.mergeProducer (value % 2 ^ 32)).targetProducer = max latest value % 2 ^ 32 := by
  unfold mergeProducer
  rw [level]
  rcases Nat.lt_or_ge latest value with later | earlier
  · rw [if_pos (ahead32_of_later later above), Nat.max_eq_right (Nat.le_of_lt later)]
  · have kept := ahead32_of_earlier earlier below
    rw [if_neg (by rw [kept]; exact Bool.false_ne_true), Nat.max_eq_left earlier, level]

/-- The producer that an activation of `ProcessSq` holds. -/
def Task.producer? : Task → Option Nat
  | .processSq _ producer _ => some producer
  | .processSqLoop _ producer _ => some producer
  | _ => none

attribute [simp] Task.producer?

/-- The producers that the activations of a Jetty will merge. -/
def Lane.producers (lane : Lane) : List Nat := lane.tasks.filterMap Task.producer?

/-- What an activation does to the target and the held producers of its Jetty. -/
structure Merges (task : Task) (before after : Lane) : Prop where
  target : after.context.targetProducer = before.context.targetProducer ∨
    ∃ producer, task.producer? = some producer ∧ after.context.targetProducer =
      (before.context.mergeProducer producer).targetProducer
  held : ∀ producer ∈ after.producers, producer ∈ before.producers ∨
    producer = before.context.targetProducer ∨ task.producer? = some producer

theorem Merges.of_same {task : Task} {before after : Lane}
    (target : after.context.targetProducer = before.context.targetProducer)
    (held : ∀ producer ∈ after.producers, producer ∈ before.producers ∨
      producer = before.context.targetProducer ∨ task.producer? = some producer) :
    Merges task before after := ⟨.inl target, held⟩

theorem QueueContext.accept_target (context : QueueContext) (producer : Nat) (direct : Bytes) :
    (context.accept producer direct).targetProducer =
      (context.mergeProducer producer).targetProducer := by
  unfold accept
  split <;> rfl

theorem QueueContext.mergeProducer_own (context : QueueContext) :
    (context.mergeProducer context.targetProducer).targetProducer = context.targetProducer := by
  unfold mergeProducer
  split <;> rfl

theorem Ran.merges {config : Config} {base after : State} {id : Nat} {task : Task}
    (ran : Ran config base id task after) : Merges task (base.lane id) (after.lane id) := by
  cases ran with
  | absent | completeAbsent | continueLast | continueRead | finishKept =>
      exact .of_same (by simp [Lane.context])
        (by
          simp [Lane.producers, List.filterMap_cons, -List.mem_filterMap]
          tauto)
  | processSq producer direct jetty _ existing outcome =>
      have same := base.lane_jetty id existing
      cases outcome <;>
        refine ⟨.inr ⟨producer, rfl, ?_⟩, ?_⟩ <;>
        simp [same, Lane.context, Lane.producers, QueueContext.accept_target,
          -List.mem_filterMap] <;> tauto
  | resumeSq jetty _ existing outcome =>
      have same := base.lane_jetty id existing
      cases outcome <;>
        refine .of_same ?_ ?_ <;>
        simp [same, Lane.context, Lane.producers, QueueContext.accept_target,
          QueueContext.mergeProducer_own, -List.mem_filterMap] <;> tauto
  | processSqLoop producer jetty _ existing outcome =>
      have same := base.lane_jetty id existing
      cases outcome with
      | left =>
          exact .of_same (by simp [same, Lane.context])
            (by
              simp [Lane.producers, -List.mem_filterMap]
              tauto)
      | _ =>
          refine ⟨.inr ⟨producer, rfl, ?_⟩, ?_⟩ <;>
            simp [same, Lane.context, Lane.producers, List.filterMap_cons, -List.mem_filterMap]
          tauto
  | fillSqCache producer targetProducer jetty _ existing outcome =>
      have same := base.lane_jetty id existing
      cases outcome <;>
        refine .of_same ?_ ?_ <;>
        simp [same, Lane.context, Lane.producers, -List.mem_filterMap] <;>
        tauto
  | executeSqHead producer targetProducer jetty _ existing outcome =>
      have same := base.lane_jetty id existing
      cases outcome <;>
        refine .of_same ?_ ?_ <;>
        simp [same, Lane.context, Lane.producers, List.filterMap_cons, -List.mem_filterMap] <;>
        tauto
  | handleSqWqe raw jetty _ existing outcome =>
      have same := base.lane_jetty id existing
      cases outcome <;>
        refine .of_same ?_ ?_ <;>
        simp [same, Lane.context, Lane.producers, Jetty.fail, Jetty.release, reserveSq,
          prepareWrite, rejectSend, List.filterMap_cons, -List.mem_filterMap] <;> tauto
  | drainPreparedWrites jetty _ existing outcome =>
      have same := base.lane_jetty id existing
      cases outcome <;>
        refine .of_same ?_ ?_ <;>
        simp [same, Lane.context, Lane.producers, List.filterMap_cons, -List.mem_filterMap] <;>
        tauto
  | submitSqPayload raw payload reserved jetty _ existing outcome =>
      have same := base.lane_jetty id existing
      cases outcome <;>
        refine .of_same ?_ ?_ <;>
        simp [same, Lane.context, Lane.producers, Jetty.release, reserveSq, List.filterMap_cons,
          -List.mem_filterMap] <;> tauto
  | releaseSqFetch jetty existing =>
      have same := base.lane_jetty id existing
      refine .of_same ?_ ?_ <;>
        simp [same, Lane.context, Lane.producers, Jetty.release, -List.mem_filterMap]
      tauto
  | completeSq request status substatus jetty _ existing outcome =>
      have same := base.lane_jetty id existing
      cases outcome <;>
        refine .of_same ?_ ?_ <;>
        simp [same, Lane.context, Lane.producers, List.filterMap_cons, -List.mem_filterMap] <;>
        tauto
  | retireSq jetty _ existing outcome =>
      have same := base.lane_jetty id existing
      cases outcome with
      | skipped => exact .of_same rfl fun producer held => .inl held
      | entered =>
          unfold retireLoop
          split <;>
            refine .of_same ?_ ?_ <;>
            simp [same, Lane.context, Lane.producers, List.filterMap_cons,
              -List.mem_filterMap] <;> tauto
  | retireSqLoop jetty _ existing outcome =>
      have same := base.lane_jetty id existing
      cases outcome with
      | stopped =>
          exact .of_same (by simp [same, Lane.context])
            (by
              simp [Lane.producers, -List.mem_filterMap]
              tauto)
      | published =>
          unfold publishSq
          split <;>
            refine .of_same ?_ ?_ <;>
            simp [same, Lane.context, Lane.producers, List.filterMap_cons,
              -List.mem_filterMap] <;> tauto
  | retireSqPipelinedLoop jetty _ existing outcome =>
      have same := base.lane_jetty id existing
      cases outcome with
      | stopped =>
          exact .of_same (by simp [same, Lane.context])
            (by
              simp [Lane.producers, -List.mem_filterMap]
              tauto)
      | published =>
          unfold publishSq
          split <;>
            refine .of_same ?_ ?_ <;>
            simp [same, Lane.context, Lane.producers, List.filterMap_cons,
              -List.mem_filterMap] <;> tauto
  | finishPopped entry jetty existing =>
      have same := base.lane_jetty id existing
      refine .of_same ?_ ?_ <;>
        simp [same, Lane.context, Lane.producers, List.filterMap_cons, -List.mem_filterMap]
      tauto
  | finishSqPipelined entry ok jetty _ existing outcome =>
      have same := base.lane_jetty id existing
      cases outcome <;>
        refine .of_same ?_ ?_ <;>
        simp [same, Lane.context, Lane.producers, List.filterMap_cons, -List.mem_filterMap] <;>
        tauto

theorem Called.merges {config : Config} {base after : State} {ok : Bool} {bytes : Bytes}
    {id : Nat} {callback : Callback} (called : Called config base ok bytes id callback after) :
    Merges .external (base.lane id) (after.lane id) := by
  cases called with
  | absent | writeSent => exact .of_same rfl fun producer held => .inl held
  | sendDone =>
      exact .of_same (by simp [Lane.context])
        (by
          simp [Lane.producers, List.filterMap_cons, -List.mem_filterMap]
          tauto)
  | prefetch start count jetty _ existing outcome =>
      have same := base.lane_jetty id existing
      cases outcome <;>
        refine .of_same ?_ ?_ <;>
        simp [same, Lane.context, Lane.producers, -List.mem_filterMap] <;>
        tauto
  | continuation raw remaining nextSlot contiguous jetty _ existing outcome =>
      have same := base.lane_jetty id existing
      cases outcome <;>
        refine .of_same ?_ ?_ <;>
        simp [same, Lane.context, Lane.producers, Jetty.fail, Jetty.release,
          List.filterMap_cons, -List.mem_filterMap] <;> tauto
  | writePayload position expected jetty existing =>
      have same := base.lane_jetty id existing
      refine .of_same ?_ ?_ <;>
        simp [same, Lane.context, Lane.producers, List.filterMap_cons, -List.mem_filterMap]
      tauto
  | sendPayload raw expected jetty _ existing outcome =>
      have same := base.lane_jetty id existing
      cases outcome <;>
        refine .of_same ?_ ?_ <;>
        simp [same, Lane.context, Lane.producers, Jetty.fail, Jetty.release,
          List.filterMap_cons, -List.mem_filterMap] <;> tauto
  | sendFailed request requestId bad =>
      have same : ∀ state : State, (state.push [.completeSq id request 1 0]).lane id =
          { state.lane id with tasks := .completeSq id request 1 0 :: (state.lane id).tasks } := by
        simp
      have kept : (if requestId ≠ 0 then base.erasePending requestId else base).lane id =
          { base.lane id with
            pending := ((if requestId ≠ 0 then base.erasePending requestId else base).lane
              id).pending } := by
        split <;> rfl
      rw [same, kept]
      refine .of_same rfl ?_
      simp [Lane.producers, List.filterMap_cons, -List.mem_filterMap]
      tauto
  | cqe =>
      split <;>
        refine .of_same ?_ ?_ <;>
        simp [Lane.context, Lane.producers, List.filterMap_cons, -List.mem_filterMap] <;>
        tauto

/-! ## The values a Jetty has been given -/

/-- The producer that an event announces for Jetty `id`. -/
def announced (id : Nat) (before : State) : Event → Option Nat
  | .doorbell who producer => if who = id then some producer else none
  | .directWrite who offset data =>
      if who = id then
        (before.jetty id).bind fun jetty =>
          if validBits jetty.context.directValid offset data.length = 2 ^ 64 - 1 then
            some (postedProducer jetty.pipe.issue
              (load32 (storeBytes jetty.context.directWqe offset data) 0 &&& 0xffff))
          else none
      else none
  | _ => none

/-- The producers announced so far. -/
abbrev Announced := List Nat

def Announced.record (id : Nat) (before : State) (event : Event) (_after : State)
    (values : Announced) : Announced :=
  values ++ (announced id before event).toList

/-- The greatest of them. -/
def Announced.latest (values : Announced) : Nat := values.foldl max 0

@[simp] theorem Announced.latest_append (values : Announced) (value : Nat) :
    Announced.latest (values ++ [value]) = max values.latest value := by
  simp [latest]

/-- The machine with the journal of the producers announced for Jetty `id`. -/
def producing (config : Config) (id : Nat) :
    State × Announced → Event → Option (State × Announced) :=
  recorded (step config) (Announced.record id)

/-- Every producer is announced for an existing Jetty, less than `2 ^ 31` ahead of the current
target or at most that far behind it. -/
def Near (id : Nat) (before : State × Announced) (event : Event) (_after : State × Announced) :
    Prop :=
  ∀ value ∈ announced id before.1 event, (before.1.jetty id).isSome = true ∧
    value < before.2.latest + 2 ^ 31 ∧ before.2.latest ≤ value + 2 ^ 31

/-- The same, and no producer that an activation still holds falls more than `2 ^ 31` behind. -/
def Spaced (id : Nat) (before : State × Announced) (event : Event) (after : State × Announced) :
    Prop :=
  Near id before event after ∧
    ∀ value ∈ announced id before.1 event, before.2.latest < value →
      ∀ producer ∈ (before.1.lane id).producers, sub32 value producer ≤ 2 ^ 31

instance (id : Nat) (before : State × Announced) (event : Event) (after : State × Announced) :
    Decidable (Near id before event after) :=
  inferInstanceAs (Decidable (∀ value ∈ announced id before.1 event, _))

instance (id : Nat) (before : State × Announced) (event : Event) (after : State × Announced) :
    Decidable (Spaced id before event after) :=
  inferInstanceAs (Decidable (_ ∧ ∀ value ∈ announced id before.1 event, _))

/-! ## The target is the latest value -/

/-- The latest value is about to be merged: its call of `ProcessSq` is next to run. -/
def Entering (id : Nat) (state : State) (values : Announced) : Prop :=
  ∃ direct rest older, state.stack = .processSq id (values.latest % 2 ^ 32) direct :: rest ∧
    (state.jetty id).isSome = true ∧
    (state.lane id).context.targetProducer = older % 2 ^ 32 ∧
    older ≤ values.latest ∧ values.latest < older + 2 ^ 31

structure Merged (id : Nat) (state : State) (values : Announced) : Prop where
  level : (state.lane id).context.targetProducer = values.latest % 2 ^ 32 ∨
    Entering id state values
  held : ∀ producer ∈ (state.lane id).producers, ∃ value, value % 2 ^ 32 = producer ∧
    value ≤ values.latest ∧ values.latest ≤ value + 2 ^ 31

/-- An event that announces a producer enters `ProcessSq` with its low 32 bits. -/
theorem announced_step {config : Config} {id value : Nat} {before after : State} {event : Event}
    (taken : step config before event = some after)
    (told : announced id before event = some value) (existing : (before.jetty id).isSome = true) :
    before.atBoundary = true ∧
    (after.jetty id).isSome = true ∧
    (after.lane id).context.targetProducer = (before.lane id).context.targetProducer ∧
    (after.lane id).producers = value % 2 ^ 32 :: (before.lane id).producers ∧
    ∃ direct, after.stack = .processSq id (value % 2 ^ 32) direct :: before.stack := by
  cases event with
  | doorbell who producer =>
      simp only [announced] at told
      split at told
      next own =>
        obtain rfl := Option.some.inj told
        subst own
        simp only [step, environment] at taken
        split at taken
        next boundary =>
          obtain rfl := Option.some.inj taken
          refine ⟨boundary, by simpa using existing, by simp [Lane.context], ?_, [], rfl⟩
          simp [Lane.producers]
        next => simp at taken
      next => simp at told
  | directWrite who offset data =>
      simp only [announced] at told
      split at told
      next own =>
        subst own
        obtain ⟨jetty, found, whole⟩ := Option.bind_eq_some_iff.mp told
        split at whole
        next full =>
          obtain rfl := Option.some.inj whole
          simp only [step, environment] at taken
          split at taken
          next boundary =>
            split at taken
            next => simp at taken
            next =>
              obtain rfl := Option.some.inj taken
              have same := before.lane_jetty who found
              have low : load32 (storeBytes jetty.context.directWqe offset data) 0 &&& 0xffff <
                  2 ^ 16 := Nat.and_lt_two_pow _ (by decide)
              obtain ⟨behind, near, bits⟩ := postedProducer_spec jetty.pipe.issue low
              have rebuilt := directProducer_of_window behind near
              rw [bits] at rebuilt
              simp only [directWrite, found, full, if_true, rebuilt]
              refine ⟨boundary, by simp, ?_, ?_, _, rfl⟩
              · simp [same, Lane.context]
              · simp [Lane.producers]
          next => simp at taken
        next => simp at whole
      next => simp at told
  | _ => simp [announced] at told

theorem Merged.keep {id : Nat} {before after : State} {values : Announced} {task : Task}
    {base : Lane} (held : ∀ producer ∈ (before.lane id).producers, ∃ value,
      value % 2 ^ 32 = producer ∧ value ≤ values.latest ∧ values.latest ≤ value + 2 ^ 31)
    (level : (before.lane id).context.targetProducer = values.latest % 2 ^ 32)
    (context : base.context = (before.lane id).context)
    (fewer : base.producers ⊆ (before.lane id).producers)
    (own : ∀ producer, task.producer? = some producer →
      producer ∈ (before.lane id).producers)
    (merges : Merges task base (after.lane id)) : Merged id after values := by
  refine ⟨.inl ?_, fun producer member => ?_⟩
  · rcases merges.target with same | ⟨producer, carried, merged⟩
    · rw [same, context, level]
    · obtain ⟨value, rfl, behind, near⟩ := held producer (own producer carried)
      rw [merged, context, QueueContext.mergeProducer_max level (by omega) near,
        Nat.max_eq_left behind]
  · rcases merges.held producer member with old | rfl | carried
    · exact held producer (fewer old)
    · exact ⟨values.latest, by rw [context, level], Nat.le_refl _, by omega⟩
    · exact held producer (own producer carried)

/-- The latest value is merged. -/
theorem Merged.enter {config : Config} {id : Nat} {before after : State} {values : Announced}
    {event : Event} (merged : Merged id before values) (entering : Entering id before values)
    (taken : step config before event = some after) :
    event = .run ∧ Merged id after values := by
  obtain ⟨direct, rest, older, top, existing, target, behind, near⟩ := entering
  have running : before.atBoundary = false := by simp [State.atBoundary, top]
  obtain rfl : event = .run := by
    cases event <;> simp [step, running] at taken ⊢
  refine ⟨rfl, ?_⟩
  simp only [step, top, Option.some.injEq] at taken
  obtain ⟨base, pushed⟩ : ∃ base : State,
      before = base.push [.processSq id (values.latest % 2 ^ 32) direct] :=
    ⟨_, (before.push_pop top).symm⟩
  obtain rfl : { before with stack := rest } = base := by
    subst pushed
    cases base
    simp_all [State.push]
  have ran := exec_ran config { before with stack := rest } id
    (.processSq id (values.latest % 2 ^ 32) direct) (by simp)
  rw [taken] at ran
  have held : ∀ producer ∈ (({ before with stack := rest } : State).lane id).producers,
      producer ∈ (before.lane id).producers := by
    intro producer member
    rw [pushed]
    simp only [State.lane_push, Lane.producers, List.filterMap_append]
    exact List.mem_append_right _ member
  have own : values.latest % 2 ^ 32 ∈ (before.lane id).producers := by
    rw [pushed]
    simp [Lane.producers]
  have merges := ran.merges
  refine ⟨.inl ?_, fun producer member => ?_⟩
  · cases ran with
    | absent _ missing =>
        have gone : before.jetty id = none := missing
        simp [gone] at existing
    | processSq _ _ jetty _ present outcome =>
        have level : jetty.context.targetProducer = older % 2 ^ 32 := by
          rw [← target, Lane.context, before.lane_jetty id present]
        have raised := QueueContext.mergeProducer_max level near (by omega)
        rw [Nat.max_eq_right behind] at raised
        rw [← raised]
        cases outcome <;> simp [Lane.context, QueueContext.accept_target]
  · rcases merges.held producer member with old | rfl | carried
    · exact merged.held producer (held producer old)
    · exact ⟨older, target.symm, behind, by omega⟩
    · obtain rfl := Option.some.inj carried
      exact merged.held _ own

/-- A write that leaves the direct descriptor incomplete. -/
theorem directWrite_quiet {config : Config} {id offset : Nat} {data : Bytes}
    {before after : State} (taken : step config before (.directWrite id offset data) = some after)
    (quiet : announced id before (.directWrite id offset data) = none) :
    (after.lane id).context.targetProducer = (before.lane id).context.targetProducer ∧
      (after.lane id).producers = (before.lane id).producers := by
  simp only [step, environment] at taken
  split at taken
  next =>
    split at taken
    next => simp at taken
    next =>
      obtain rfl := Option.some.inj taken
      cases found : before.jetty id with
      | none => simp [directWrite, found]
      | some jetty =>
          have same := before.lane_jetty id found
          have partly : validBits jetty.context.directValid offset data.length ≠ 2 ^ 64 - 1 := by
            simpa [announced, found] using quiet
          simp only [directWrite, found, partly, if_false]
          exact ⟨by simp [same, Lane.context], by simp [Lane.producers]⟩
  next => simp at taken

/-- An action that announces nothing. -/
theorem Acts.merged {config : Config} {id : Nat} {before after : State} {values : Announced}
    {event : Event} (acts : Acts config id before event after)
    (held : ∀ producer ∈ (before.lane id).producers, ∃ value,
      value % 2 ^ 32 = producer ∧ value ≤ values.latest ∧ values.latest ≤ value + 2 ^ 31)
    (level : (before.lane id).context.targetProducer = values.latest % 2 ^ 32)
    (quiet : announced id before event = none)
    (stored : ∀ offset data, event = .directWrite id offset data → Merged id after values) :
    Merged id after values := by
  cases acts with
  | task base task _ pushed own calm ran =>
      subst pushed
      have producers : ((base.push [task]).lane id).producers =
          (task.producer?.toList) ++ (base.lane id).producers := by
        simp only [State.lane_push, Lane.producers, List.filter_cons_of_pos own,
          List.filter_nil, List.filterMap_append]
        cases carried : task.producer? <;> simp [carried, -Task.producer?]
      refine Merged.keep held level (by simp [Lane.context]) ?_ ?_ ran.merges
      · rw [producers]
        exact List.subset_append_right _ _
      · intro producer carried
        rw [producers, carried]
        exact List.mem_append_left _ (by simp)
  | callback index ok bytes callback calls base _ own calm pushed chosen removed called =>
      subst pushed
      rw [State.lane_holding] at held level
      have held : ∀ producer ∈ (base.lane id).producers, ∃ value, value % 2 ^ 32 = producer ∧
          value ≤ values.latest ∧ values.latest ≤ value + 2 ^ 31 := held
      exact Merged.keep held level rfl (List.Subset.refl _) (by simp) called.merges
  | progressed _ _ pending progress earlier later observed calm owned owner request silent lane =>
      exact ⟨.inl (by rw [lane]; exact level), by rw [lane]; exact held⟩
  | finished _ _ pending earlier later status calm owned lane =>
      refine ⟨.inl (by rw [lane]; exact level), ?_⟩
      rw [lane]
      simpa [Lane.producers, List.filterMap_cons] using held
  | doorbell producer => simp [announced] at quiet
  | direct offset data => exact stored offset data rfl
  | created context jetty calm missing fresh =>
      refine ⟨.inl ?_, ?_⟩
      · rw [← level]
        simp [Lane.context, missing, fresh.targetProducer, Jetty.blank]
      · simpa [Lane.producers] using held

theorem merged_step {config : Config} {id : Nat} {before after : State} {values : Announced}
    {event : Event} (settled : before.Settled) (merged : Merged id before values)
    (taken : step config before event = some after)
    (allowed : Spaced id (before, values) event
      (after, Announced.record id before event after values)) :
    Merged id after (Announced.record id before event after values) := by
  rcases merged.level with level | entering
  · cases told : announced id before event with
    | some value =>
        obtain ⟨existing, above, below⟩ := allowed.1 value (by simp [told])
        have spaced := allowed.2 value (by simp [told])
        obtain ⟨boundary, present, target, producers, direct, top⟩ :=
          announced_step taken told existing
        have latest : (Announced.record id before event after values).latest =
            max values.latest value := by
          simp [Announced.record, told]
        dsimp only at above below spaced
        refine ⟨?_, fun producer member => ?_⟩
        · rw [latest, target, level]
          rcases Nat.lt_or_ge values.latest value with later | earlier
          · refine .inr ⟨direct, before.stack, values.latest, ?_, present, ?_, ?_, ?_⟩
            · rw [latest, Nat.max_eq_right (Nat.le_of_lt later), top]
            · rw [target, level]
            · rw [latest]
              omega
            · rw [latest]
              omega
          · rw [Nat.max_eq_left earlier]
            exact .inl rfl
        · rw [latest]
          rw [producers] at member
          rcases List.mem_cons.mp member with rfl | old
          · exact ⟨value, rfl, by omega, by omega⟩
          · obtain ⟨earlier, rfl, behind, near⟩ := merged.held producer old
            refine ⟨earlier, rfl, by omega, ?_⟩
            rcases Nat.lt_or_ge values.latest value with later | _
            · have distance := spaced later _ old
              unfold sub32 at distance
              omega
            · omega
    | none =>
        have quiet : Announced.record id before event after values = values := by
          simp [Announced.record, told]
        rw [quiet]
        rcases (step_acts settled taken).2 id with unchanged | acts
        · exact ⟨.inl (unchanged ▸ level), unchanged ▸ merged.held⟩
        · refine acts.merged merged.held level told fun offset data same => ?_
          subst same
          obtain ⟨target, producers⟩ := directWrite_quiet taken told
          exact ⟨.inl (target ▸ level), producers ▸ merged.held⟩
  · obtain ⟨rfl, next⟩ := merged.enter entering taken
    simpa [Announced.record, announced] using next

/-- Low bits are completed to the producer the guest has posted, and the target is the latest
producer announced, outside the first moment of a call of `ProcessSq`. -/
theorem producers_exact (config : Config) (id : Nat) :
    (∀ issue producer, issue ≤ producer → producer < issue + 2 ^ 16 →
      directProducer issue (producer % 2 ^ 16) = producer % 2 ^ 32) ∧
    ∀ state values,
      Reaches (producing config id) (Spaced id) (State.initial config, []) (state, values) →
      (∀ producer direct rest, state.stack ≠ .processSq id producer direct :: rest) →
      (state.lane id).context.targetProducer = values.latest % 2 ^ 32 := by
  refine ⟨fun issue producer behind near => directProducer_of_window behind near,
    fun state values reached entered => ?_⟩
  have merged : ∀ pair, Reaches (producing config id) (Spaced id) (State.initial config, []) pair →
      Merged id pair.1 pair.2 := by
    intro pair earlier
    refine earlier.induction_on (fun pair => Merged id pair.1 pair.2) ?_ ?_
    · exact ⟨.inl rfl, by simp [State.initial_lane, Lane.producers]⟩
    · intro before event after reached sound taken allowed
      obtain ⟨next, moved, rfl⟩ := Option.map_eq_some_iff.mp taken
      have recorded : Reaches (producing config id) (recordedGuard always)
          (State.initial config, []) before := reached.mono fun _ _ _ _ => trivial
      have plain : Reaches (step config) always (State.initial config) before.1 :=
        recorded.of_recorded
      exact merged_step (settled_of_reaches plain) sound moved allowed
  rcases (merged _ reached).level with level | ⟨direct, rest, older, top, -⟩
  · exact level
  · exact absurd top (entered _ direct rest)

/-- Two doorbells, the later of them while the block of the earlier one is fetched. -/
theorem producers_exact_for_two_doorbells :
    directProducer (2 ^ 32 - 1) (2 ^ 32 % 2 ^ 16) = 2 ^ 32 % 2 ^ 32 ∧
    ∃ state values, Reaches (producing (.small false) 9) (Spaced 9)
        (State.initial (.small false), []) (state, values) ∧
      values = [1, 3] ∧
      (state.lane 9).context.targetProducer = Announced.latest values % 2 ^ 32 := by
  let events : List Event :=
    opening 9 5 ++ [.doorbell 9 1] ++ runs 3 ++ [.doorbell 9 3] ++ runs 9
  obtain ⟨⟨state, values⟩, reached, seen⟩ := exists_of_execute
    (show (execute (producing (.small false) 9) (Spaced 9) events
      (State.initial (.small false), [])).map (fun pair => (pair.1.stack, pair.2)) =
        some ([.processSqLoop 9 1 .check], [1, 3]) by decide +kernel)
  obtain ⟨top, posted⟩ := Prod.mk.inj seen
  refine ⟨(producers_exact (.small false) 9).1 _ _ (by decide) (by decide), state, values, reached,
    posted, (producers_exact (.small false) 9).2 state values reached ?_⟩
  intro producer direct rest entered
  dsimp only at top
  simp [top] at entered

/-- Two doorbells arrive while an older activation waits for a DMA read.  Each is near the
target, but the second lies more than `2 ^ 31` ahead of the producer that the activation holds
and merges again. -/
theorem nested_doorbells_lower_target :
    ¬ ∀ (config : Config) (id : Nat) (state : State) (values : Announced),
      Reaches (producing config id) (Near id) (State.initial config, []) (state, values) →
      state.stack = [] →
      (state.lane id).context.targetProducer = values.latest % 2 ^ 32 := by
  intro exact
  let events : List Event :=
    opening 9 5 ++ [.doorbell 9 1] ++ runs 3 ++
      [.doorbell 9 (2 ^ 31), .run, .doorbell 9 (2 ^ 32 - 1), .run] ++ runs 7
  obtain ⟨⟨state, values⟩, reached, seen⟩ := exists_of_execute
    (show (execute (producing (.small false) 9) (Near 9) events
      (State.initial (.small false), [])).map
        (fun pair => (pair.1.stack, (pair.1.lane 9).context.targetProducer, pair.2)) =
        some ([], 1, [1, 2 ^ 31, 2 ^ 32 - 1]) by decide +kernel)
  obtain ⟨idle, rest⟩ := Prod.mk.inj seen
  obtain ⟨target, posted⟩ := Prod.mk.inj rest
  have same := exact _ 9 state values reached idle
  dsimp only at target posted
  rw [target, posted] at same
  exact absurd same (by decide)

end Udma.Sq
