import Udma.Cq.Commands
import Udma.Cq.Slots

/-!
# CQ slots in the order of acceptance

In pipelined mode a publication that finds its CQ full waits for a read of the
consumer index before it gets its slot.  No other publication of the JFC is
admitted meanwhile, as long as the cached consumer still shows the CQ full.  The
query command refreshes the same cached consumer, and may end that wait.
-/

namespace Udma.Cq

open Udma.Abi Udma.Collections Udma.Transition

variable {config : Config} {state before after : State} {event : Event} {id : Nat}

/-! ## Publications in flight -/

theorem held_le_tokens (outstanding : List Callback) (id : Nat) :
    (outstanding.filterMap (Callback.reading id)).length +
        (outstanding.filterMap (Callback.writing id)).length ≤
      ((outstanding.map Callback.tokens).sum).count (.queue id) := by
  induction outstanding with
  | nil => simp
  | cons callback rest inductionHypothesis =>
      rw [List.map_cons, List.sum_cons, Multiset.count_add]
      have one : (callback.reading id).toList.length + (callback.writing id).toList.length ≤
          callback.tokens.count (.queue id) := by
        cases callback with
        | consumerRead ticket own publication =>
            by_cases same : own = id <;>
              simp [Callback.reading, Callback.writing, Callback.tokens, publicationTokens, same]
        | cqeWritten ticket own publication =>
            by_cases same : own = id <;>
              simp [Callback.reading, Callback.writing, Callback.tokens, publicationTokens, same]
        | _ => simp [Callback.reading, Callback.writing]
      have reading : ((callback :: rest).filterMap (Callback.reading id)).length =
          (callback.reading id).toList.length +
            (rest.filterMap (Callback.reading id)).length := by
        rw [← List.singleton_append, List.filterMap_append, List.length_append,
          filterMap_singleton]
      have writing : ((callback :: rest).filterMap (Callback.writing id)).length =
          (callback.writing id).toList.length +
            (rest.filterMap (Callback.writing id)).length := by
        rw [← List.singleton_append, List.filterMap_append, List.length_append,
          filterMap_singleton]
      omega

/-- A queue counts the publications whose callbacks are outstanding. -/
theorem held_le_load (balanced : (state.books config).Balanced config.completionEventSlots)
    (id : Nat) :
    (state.lane config id).reading.length + (state.lane config id).writing.length ≤
      (state.lane config id).load := by
  have counted : state.tokens.count (.queue id) = state.load config id := balanced.queues id
  have held := held_le_tokens state.outstanding id
  have within : ((state.outstanding.map Callback.tokens).sum).count (.queue id) ≤
      state.tokens.count (.queue id) := by
    simp only [State.tokens, Multiset.count_add]
    omega
  calc (state.lane config id).reading.length + (state.lane config id).writing.length
      ≤ ((state.outstanding.map Callback.tokens).sum).count (.queue id) := held
    _ ≤ state.tokens.count (.queue id) := within
    _ = state.load config id := counted

/-! ## The order of a lane -/

/-- One slot before another, in the same JFC or in an earlier one of that number. -/
def Slot.Before (first second : Slot) : Prop :=
  first.generation < second.generation ∨
    first.generation = second.generation ∧ first.producer < second.producer

instance (first second : Slot) : Decidable (first.Before second) :=
  inferInstanceAs (Decidable (_ ∨ _))

/-- A slot that the ring has passed. -/
def Slot.Precedes (slot : Slot) (ring : Ring) : Prop :=
  slot.generation < ring.generation ∨
    slot.generation = ring.generation ∧ slot.producer < ring.producer

/-- The slots of a lane are behind its ring. -/
structure Lane.Behind (lane : Lane) : Prop where
  slots : ∀ slot ∈ lane.slots, slot.generation < lane.generations
  ring : ∀ ring, lane.ring = some ring → ring.generation < lane.generations ∧
    ∀ slot ∈ lane.slots, slot.Precedes ring

/-- The publications of a lane, in the order of acceptance. -/
def Lane.queue (lane : Lane) : List Nat :=
  lane.slots.map Slot.call ++ lane.reading.map Publication.call ++
    lane.pending.map Publication.call

/-- The slots of a lane follow each other, up to the producer of the ring. -/
structure Lane.Climbs (lane : Lane) : Prop extends behind : lane.Behind where
  climbing : lane.slots.Pairwise Slot.Before

structure Lane.Ordered (lane : Lane) : Prop where
  queue : lane.queue.Sublist lane.accepted
  single : lane.reading.length ≤ 1
  full : lane.reading ≠ [] → ∃ ring, lane.ring = some ring ∧ ring.depth ≤ ring.used

namespace Lane.Behind

variable {lane next : Lane}

/-- Neither the slots nor the place of the ring change. -/
theorem of_eq (behind : lane.Behind) (slots : next.slots = lane.slots)
    (generations : lane.generations ≤ next.generations)
    (ring : ∀ new, next.ring = some new → ∃ old, lane.ring = some old ∧
      new.generation = old.generation ∧ old.producer ≤ new.producer) : next.Behind where
  slots := by
    intro slot held
    rw [slots] at held
    exact (behind.slots slot held).trans_le generations
  ring := by
    intro new found
    obtain ⟨old, present, generation, advanced⟩ := ring new found
    obtain ⟨below, before⟩ := behind.ring old present
    refine ⟨by omega, ?_⟩
    intro slot held
    rw [slots] at held
    have earlier := before slot held
    simp only [Slot.Precedes] at earlier ⊢
    omega

theorem unchanged (behind : lane.Behind) (slots : next.slots = lane.slots)
    (generations : lane.generations ≤ next.generations) (ring : next.ring = lane.ring) :
    next.Behind :=
  behind.of_eq slots generations fun new found => ⟨new, ring ▸ found, rfl, le_rfl⟩

/-- The next slot of the ring is given away. -/
theorem reserve (behind : lane.Behind) {ring : Ring} (publication : Publication)
    (consumer : Nat) (found : lane.ring = some ring) :
    (lane.reserve true ring publication consumer).Behind where
  slots := by
    obtain ⟨below, _⟩ := behind.ring ring found
    intro slot held
    rcases List.mem_append.mp held with earlier | new
    · exact behind.slots slot earlier
    · obtain rfl := List.mem_singleton.mp new
      exact below
  ring := by
    obtain ⟨below, before⟩ := behind.ring ring found
    intro new same
    obtain rfl := Option.some.inj same
    refine ⟨below, ?_⟩
    intro slot held
    rcases List.mem_append.mp held with earlier | added
    · have ahead := before slot earlier
      simp only [Slot.Precedes, if_true] at ahead ⊢
      omega
    · obtain rfl := List.mem_singleton.mp added
      simp [Slot.Precedes, Ring.slot]

theorem install (behind : lane.Behind) (queueIova : Nat) (shift : Fin 16) :
    ({ lane with
        ring := some ⟨lane.generations, queueIova, shift, 0, 0⟩
        generations := lane.generations + 1 } : Lane).Behind where
  slots := fun slot held => (behind.slots slot held).trans (Nat.lt_succ_self _)
  ring := by
    intro new same
    obtain rfl := Option.some.inj same
    exact ⟨Nat.lt_succ_self _, fun slot held => .inl (behind.slots slot held)⟩

end Lane.Behind

namespace Lane.Climbs

variable {lane next : Lane} {input : Input}

theorem unchanged (climbs : lane.Climbs) (slots : next.slots = lane.slots)
    (generations : lane.generations ≤ next.generations) (ring : next.ring = lane.ring) :
    next.Climbs :=
  ⟨climbs.behind.unchanged slots generations ring, slots ▸ climbs.climbing⟩

theorem reserve (climbs : lane.Climbs) {ring : Ring} (publication : Publication)
    (consumer : Nat) (found : lane.ring = some ring) :
    (lane.reserve true ring publication consumer).Climbs where
  behind := climbs.behind.reserve publication consumer found
  climbing := by
    obtain ⟨_, before⟩ := climbs.behind.ring ring found
    refine List.pairwise_append.mpr ⟨climbs.climbing, List.pairwise_singleton _ _, ?_⟩
    intro slot held other new
    obtain rfl := List.mem_singleton.mp new
    exact before slot held

theorem move (climbs : lane.Climbs) (moved : Lane.Move true input id lane next) :
    next.Climbs := by
  cases moved with
  | kept calls generations _ later => exact climbs.unchanged rfl later rfl
  | @reserved publication rest ring _ waiting found room unused =>
      have admitted : (lane.granted rest).Climbs := climbs.unchanged rfl le_rfl rfl
      exact admitted.reserve publication _ found
  | @refreshed publication earlier later ring consumer shape found read unused =>
      have withdrawn : ({ lane with reading := earlier ++ later } : Lane).Climbs :=
        climbs.unchanged rfl le_rfl rfl
      exact withdrawn.reserve publication consumer found
  | written shape moved => exact climbs.unchanged rfl le_rfl (moved.resolve_right (by simp))
  | queried asked found =>
      refine ⟨climbs.behind.of_eq rfl le_rfl ?_, climbs.climbing⟩
      intro new same
      obtain rfl := Option.some.inj same
      exact ⟨_, found, rfl, le_rfl⟩
  | erased empty unloaded => exact ⟨climbs.behind.of_eq rfl le_rfl (by simp), climbs.climbing⟩
  | installed queueIova shift installing =>
      exact ⟨climbs.behind.install queueIova shift, climbs.climbing⟩
  | _ => exact climbs.unchanged rfl le_rfl rfl

end Lane.Climbs

theorem climbs_of_reaches {guard : State → Event → State → Prop}
    (pipelined : config.pipelinedCompletionDma = true)
    (reached : Reaches (step config) guard .initial state) (id : Nat) :
    (state.lane config id).Climbs := by
  refine reached.induction_on (fun state => (state.lane config id).Climbs) ?_ ?_
  · refine ⟨⟨?_, ?_⟩, List.Pairwise.nil⟩
    · simp [State.lane, State.initial, slotsOf]
    · simp [State.lane, State.initial, State.ring]
  · intro before event after _ climbs taken _
    have moved := step_lane taken id
    rw [pipelined] at moved
    exact climbs.move moved

namespace Lane.Ordered

variable {lane next : Lane} {input : Input}

/-- No publication joins the queue. -/
theorem of_eq (ordered : lane.Ordered) (queue : next.queue.Sublist lane.queue)
    (accepted : next.accepted = lane.accepted)
    (fewer : next.reading.length ≤ lane.reading.length)
    (full : next.reading ≠ [] → lane.reading ≠ [] ∧ next.ring = lane.ring) : next.Ordered where
  queue := by
    rw [accepted]
    exact queue.trans ordered.queue
  single := fewer.trans ordered.single
  full := by
    intro reading
    obtain ⟨earlier, ring⟩ := full reading
    rw [ring]
    exact ordered.full earlier

theorem unchanged (ordered : lane.Ordered) (queue : next.queue = lane.queue)
    (accepted : next.accepted = lane.accepted) (reading : next.reading = lane.reading)
    (ring : next.ring = lane.ring) : next.Ordered := by
  refine ordered.of_eq (queue ▸ List.Sublist.refl _) accepted (reading ▸ le_rfl) ?_
  rw [reading]
  exact fun some => ⟨some, ring⟩

/-- The first publication without a slot gets the next one. -/
theorem reserve {publication : Publication} {ring : Ring} (consumer : Nat)
    (queue : (lane.slots.map Slot.call ++ publication.call ::
      (lane.reading.map Publication.call ++ lane.pending.map Publication.call)).Sublist
        lane.accepted)
    (idle : lane.reading = []) : (lane.reserve true ring publication consumer).Ordered where
  queue := by
    simpa [Lane.queue, idle] using queue
  single := by simp [idle]
  full := by
    intro reading
    exact absurd idle reading

/-- The cached consumer does not change while a publication waits for a read. -/
theorem move (ordered : lane.Ordered) (moved : Lane.Move true input id lane next)
    (held : lane.reading.length ≤ lane.load)
    (vacant : input.install = some id → lane.ring = none)
    (undisturbed : ∀ ring consumer, input.query = some (id, consumer) → lane.ring = some ring →
      lane.reading ≠ [] → ring.depth ≤ Ring.used { ring with consumer := consumer }) :
    next.Ordered := by
  have queue := ordered.queue
  have single := ordered.single
  cases moved with
  | accepted publication call origin =>
      refine ⟨?_, single, ordered.full⟩
      simp only [Lane.queue, List.map_append, List.map_cons, List.map_nil, ← List.append_assoc]
      exact queue.append (List.Sublist.refl _)
  | refused waiting =>
      refine ordered.of_eq ?_ rfl le_rfl fun reading => ⟨reading, rfl⟩
      simp only [Lane.queue, Lane.granted, waiting, List.map_cons]
      exact (List.Sublist.refl _).append (List.sublist_cons_self _ _)
  | refreshing waiting found full =>
      obtain ⟨unloaded, behind⟩ := full rfl
      have idle : lane.reading = [] := List.length_eq_zero_iff.mp (by omega)
      refine ⟨?_, by simp [idle], fun _ => ⟨_, found, behind⟩⟩
      simpa [Lane.queue, Lane.granted, waiting, idle] using queue
  | reserved _ waiting found room unused =>
      have idle : lane.reading = [] := by
        by_contra reading
        obtain ⟨ring, present, behind⟩ := ordered.full reading
        obtain rfl := Option.some.inj (found.symm.trans present)
        omega
      refine Lane.Ordered.reserve _ ?_ idle
      simpa [Lane.queue, Lane.granted, waiting, idle] using queue
  | unread shape =>
      refine ordered.of_eq ?_ rfl (by simp [shape]) fun _ => ⟨by simp [shape], rfl⟩
      simp only [Lane.queue, shape, List.map_append, List.map_cons]
      refine List.Sublist.append ?_ (List.Sublist.refl _)
      refine (List.Sublist.refl _).append ?_
      exact (List.Sublist.refl _).append (List.sublist_cons_self _ _)
  | @refreshed publication earlier later ring consumer shape found read unused =>
      rw [shape, List.length_append, List.length_cons] at single
      obtain rfl : earlier = [] := List.length_eq_zero_iff.mp (by omega)
      obtain rfl : later = [] := List.length_eq_zero_iff.mp (by omega)
      refine Lane.Ordered.reserve _ ?_ rfl
      simpa [Lane.queue, shape] using queue
  | written shape moved =>
      exact ordered.unchanged rfl rfl rfl (moved.resolve_right (by simp))
  | @queried ring consumer asked found =>
      refine ⟨queue, single, ?_⟩
      intro reading
      exact ⟨_, rfl, undisturbed ring consumer asked found reading⟩
  | erased empty unloaded =>
      have idle : lane.reading = [] := List.length_eq_zero_iff.mp (by omega)
      exact ⟨queue, single, fun reading => absurd idle reading⟩
  | installed queueIova shift installing =>
      have missing := vacant installing
      refine ⟨queue, single, ?_⟩
      intro reading
      obtain ⟨ring, present, _⟩ := ordered.full reading
      simp [missing] at present
  | _ => exact ordered.unchanged rfl rfl rfl rfl

end Lane.Ordered

/-- No query command shows room in a CQ whose consumer index a publication is
reading. -/
def Undisturbed (before : State) (event : Event) (_after : State) : Prop :=
  ∀ query ∈ (before.input event).query, ∀ ring ∈ before.ring query.1,
    before.outstanding.filterMap (Callback.reading query.1) ≠ [] →
      ring.depth ≤ Ring.used { ring with consumer := query.2 }

instance (before : State) (event : Event) (after : State) :
    Decidable (Undisturbed before event after) :=
  inferInstanceAs (Decidable (∀ query ∈ (before.input event).query,
    ∀ ring ∈ before.ring query.1, _ → _))

theorem ordered_of_reaches (pipelined : config.pipelinedCompletionDma = true)
    (reached : Reaches (step config) Undisturbed .initial state) (id : Nat) :
    (state.lane config id).Ordered := by
  refine reached.induction_on (fun state => (state.lane config id).Ordered) ?_ ?_
  · exact ⟨List.Sublist.refl _, Nat.zero_le _, fun reading => absurd rfl reading⟩
  · intro before event after earlier ordered taken undisturbed
    have moved := step_lane taken id
    rw [pipelined] at moved
    have held := held_le_load (balanced_of_reaches earlier) id
    refine ordered.move moved (by omega) (filed_of_reaches earlier).install_none ?_
    intro ring consumer asked found reading
    exact undisturbed (id, consumer) asked ring found reading

/-- In pipelined mode the CQEs of a JFC get their slots in the order in which
`WriteCqe` accepted them, and the slots follow each other in the ring. -/
theorem slots_follow_acceptance (pipelined : config.pipelinedCompletionDma = true)
    (reached : Reaches (step config) Undisturbed .initial state) (id : Nat) :
    ((slotsOf id state.trace).map Slot.call).Sublist (acceptedFor id state.trace) ∧
      (slotsOf id state.trace).Pairwise Slot.Before := by
  have ordered := ordered_of_reaches pipelined reached id
  have queue : ((slotsOf id state.trace).map Slot.call).Sublist (state.lane config id).queue :=
    (List.sublist_append_left _ _).trans (List.sublist_append_left _ _)
  exact ⟨queue.trans ordered.queue, (climbs_of_reaches pipelined reached id).climbing⟩

/-- A query command on JFC 7 whose callbacks are at `index`; the record doorbell
holds `consumer`. -/
def queryCommand (index consumer : Nat) : List Event :=
  [.mailbox ⟨.queryJfc, 7, 0x1000⟩, .run, .fire index true (store32 consumer), .run,
    .fire index true [], .run, .fire index true []]

/-- Two CQEs for a CQ that the cached consumer shows full, with the query that opened
it again before the second one. -/
def refilled : List Event :=
  created ++ queryCommand 0 0x3fffc0 ++ [.writeCqe 7 .small] ++ pass 8 ++
    [.fire 0 true (store32 0)] ++ runs 1 ++ queryCommand 1 0 ++ [.writeCqe 7 .small] ++ pass 8

theorem slots_follow_acceptance_when_refilled :
    ∃ state, Reaches (step (.small true)) Undisturbed .initial state ∧
      acceptedFor 7 state.trace = [0, 1] ∧ (slotsOf 7 state.trace).length = 2 ∧
      ((slotsOf 7 state.trace).map Slot.call).Sublist (acceptedFor 7 state.trace) := by
  obtain ⟨state, reached, seen⟩ := exists_of_execute
    (show (execute (step (.small true)) Undisturbed refilled .initial).map
      (fun state => (acceptedFor 7 state.trace, (slotsOf 7 state.trace).length)) =
        some ([0, 1], 2) by decide +kernel)
  obtain ⟨accepted, count⟩ := Prod.mk.inj seen
  exact ⟨state, reached, accepted, count, (slots_follow_acceptance rfl reached 7).1⟩

/-- The query runs while the first CQE waits for its read of the consumer index. -/
def overtaken : List Event :=
  created ++ queryCommand 0 0x3fffc0 ++ [.writeCqe 7 .small] ++ pass 8 ++ queryCommand 1 0 ++
    [.writeCqe 7 .small] ++ pass 8 ++ [.fire 0 true (store32 0)]

theorem second_cqe_overtakes_first :
    ∃ state, Reaches (step (.small true)) always .initial state ∧
      acceptedFor 7 state.trace = [0, 1] ∧
      (slotsOf 7 state.trace).map (fun slot => (slot.call, slot.producer)) = [(1, 0), (0, 1)] := by
  obtain ⟨state, reached, seen⟩ := exists_of_execute
    (show (execute (step (.small true)) always overtaken .initial).map
      (fun state => (acceptedFor 7 state.trace,
        (slotsOf 7 state.trace).map fun slot => (slot.call, slot.producer))) =
        some ([0, 1], [(1, 0), (0, 1)]) by decide +kernel)
  obtain ⟨accepted, slots⟩ := Prod.mk.inj seen
  exact ⟨state, reached, accepted, slots⟩

end Udma.Cq
