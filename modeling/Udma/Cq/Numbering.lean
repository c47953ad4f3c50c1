import Udma.Cq.Order

/-!
# The numbers of publications and JFCs

Every publication of a lane has the number of its call, and every slot that of the JFC which
gave it away.  `Lane.Numbered` says that these numbers were given before, those of the calls
to one publication each.
-/

namespace Udma.Cq

open Udma.Transition

/-- The calls of a lane are different, and its numbers are below the next ones. -/
structure Lane.Numbered (lane : Lane) : Prop where
  distinct : lane.queue.Nodup
  below : ∀ call ∈ lane.queue, call < lane.calls
  slots : ∀ slot ∈ lane.slots, slot.generation < lane.generations
  ring : ∀ ring, lane.ring = some ring → ring.generation < lane.generations

namespace Lane.Numbered

variable {pipelined : Bool} {lane next : Lane} {input : Input} {id : Nat}

/-- No publication joins, and the JFC stays, if it does not go. -/
theorem of_eq (numbered : lane.Numbered) (queue : next.queue.Sublist lane.queue)
    (calls : lane.calls ≤ next.calls) (slots : next.slots = lane.slots)
    (generations : lane.generations ≤ next.generations)
    (ring : ∀ new, next.ring = some new → ∃ old, lane.ring = some old ∧
      new.generation = old.generation) : next.Numbered where
  distinct := queue.nodup numbered.distinct
  below := fun call held => (numbered.below call (queue.subset held)).trans_le calls
  slots := fun slot held => (numbered.slots slot (slots ▸ held)).trans_le generations
  ring := by
    intro new found
    obtain ⟨old, present, same⟩ := ring new found
    rw [same]
    exact (numbered.ring old present).trans_le generations

theorem unchanged (numbered : lane.Numbered) (queue : next.queue.Sublist lane.queue)
    (slots : next.slots = lane.slots) (ring : next.ring = lane.ring)
    (calls : lane.calls ≤ next.calls) (generations : lane.generations ≤ next.generations) :
    next.Numbered :=
  numbered.of_eq queue calls slots generations fun new found => ⟨new, ring ▸ found, rfl⟩

/-- A publication that waited gets the slot at the producer. -/
theorem reserve (numbered : lane.Numbered) (base : Lane) {publication : Publication}
    {ring : Ring} (order : lane.queue.Perm (publication.call :: base.queue))
    (found : lane.ring = some ring) (slots : base.slots = lane.slots)
    (calls : base.calls = lane.calls) (generations : base.generations = lane.generations)
    (consumer : Nat) : (base.reserve pipelined ring publication consumer).Numbered := by
  have moved : (base.reserve pipelined ring publication consumer).queue.Perm lane.queue := by
    refine List.Perm.trans ?_ order.symm
    simp only [Lane.queue, Lane.reserve, List.map_append, List.map_cons, List.map_nil,
      List.append_assoc, List.singleton_append]
    exact List.perm_middle
  have dated : ring.generation < base.generations := generations ▸ numbered.ring ring found
  refine ⟨moved.nodup_iff.mpr numbered.distinct, fun call held => ?_, fun slot held => ?_,
    fun new same => ?_⟩
  · exact (numbered.below call (moved.mem_iff.mp held)).trans_eq calls.symm
  · rcases List.mem_append.mp held with earlier | new
    · exact (numbered.slots slot (slots ▸ earlier)).trans_eq generations.symm
    · obtain rfl := List.mem_singleton.mp new
      exact dated
  · obtain rfl := Option.some.inj same
    exact dated

theorem move (numbered : lane.Numbered) (moved : Lane.Move pipelined input id lane next) :
    next.Numbered := by
  cases moved with
  | kept calls generations later after =>
      exact numbered.unchanged (List.Sublist.refl _) rfl rfl later after
  | turnedAway publication call origin =>
      exact numbered.unchanged (List.Sublist.refl _) rfl rfl (Nat.le_succ _) le_rfl
  | accepted publication call origin =>
      have joined (other : Nat) (listed : other ∈ ({ lane with
          pending := lane.pending ++ [publication] } : Lane).queue) :
          other ∈ lane.queue ∨ other = lane.calls := by
        simp only [Lane.queue, List.map_append, List.map_cons, List.map_nil, ← List.append_assoc]
          at listed
        rcases List.mem_append.mp listed with earlier | new
        · exact .inl earlier
        · exact .inr ((List.mem_singleton.mp new).trans call)
      refine ⟨?_, fun other listed => ?_, numbered.slots, numbered.ring⟩
      · simp only [Lane.queue, List.map_append, List.map_cons, List.map_nil, ← List.append_assoc]
        refine List.nodup_append.mpr ⟨numbered.distinct, List.nodup_singleton _, ?_⟩
        intro one listed other new
        rw [List.mem_singleton.mp new, call]
        exact (numbered.below one listed).ne
      · rcases joined other listed with earlier | rfl
        · exact (numbered.below other earlier).trans (Nat.lt_succ_self _)
        · exact Nat.lt_succ_self _
  | refused waiting =>
      refine numbered.unchanged ?_ rfl rfl le_rfl le_rfl
      simp only [Lane.queue, Lane.granted, waiting, List.map_cons]
      exact (List.Sublist.refl _).append (List.sublist_cons_self _ _)
  | refreshing waiting found full =>
      refine numbered.unchanged ?_ rfl rfl le_rfl le_rfl
      simp [Lane.queue, Lane.granted, waiting]
  | @reserved publication rest ring mode waiting found room unused =>
      refine numbered.reserve (lane.granted rest) ?_ found rfl rfl rfl _
      simp only [Lane.queue, Lane.granted, waiting, List.map_cons]
      exact List.perm_middle
  | unread shape =>
      refine numbered.unchanged ?_ rfl rfl le_rfl le_rfl
      simp only [Lane.queue, shape, List.map_append, List.map_cons]
      refine List.Sublist.append ?_ (List.Sublist.refl _)
      refine (List.Sublist.refl _).append ?_
      exact (List.Sublist.refl _).append (List.sublist_cons_self _ _)
  | @refreshed publication earlier later ring consumer shape found read unused =>
      refine numbered.reserve { lane with reading := earlier ++ later } ?_ found rfl rfl rfl consumer
      have middle : (lane.slots.map Slot.call ++ earlier.map Publication.call ++
          publication.call :: (later.map Publication.call ++
            lane.pending.map Publication.call)).Perm
          (publication.call :: (lane.slots.map Slot.call ++ earlier.map Publication.call ++
            (later.map Publication.call ++ lane.pending.map Publication.call))) :=
        List.perm_middle
      simpa [Lane.queue, shape, List.append_assoc] using middle
  | written shape moved =>
      refine numbered.of_eq (List.Sublist.refl _) le_rfl rfl le_rfl fun new found => ?_
      rcases moved with same | ⟨_, old, present, advanced⟩
      · exact ⟨new, same ▸ found, rfl⟩
      · obtain rfl := Option.some.inj (advanced.symm.trans found)
        exact ⟨old, present, rfl⟩
  | released => exact numbered.unchanged (List.Sublist.refl _) rfl rfl le_rfl le_rfl
  | queried asked found =>
      refine numbered.of_eq (List.Sublist.refl _) le_rfl rfl le_rfl fun new same => ?_
      obtain rfl := Option.some.inj same
      exact ⟨_, found, rfl⟩
  | erased empty unloaded =>
      exact numbered.of_eq (List.Sublist.refl _) le_rfl rfl le_rfl (by simp)
  | installed queueIova shift installing =>
      refine ⟨numbered.distinct, numbered.below, fun slot held => ?_, fun new same => ?_⟩
      · exact (numbered.slots slot held).trans (Nat.lt_succ_self _)
      · obtain rfl := Option.some.inj same
        exact Nat.lt_succ_self _

end Lane.Numbered

theorem numbered_of_reaches {config : Config} {state : State}
    {guard : State → Event → State → Prop}
    (reached : Reaches (step config) guard .initial state) (id : Nat) :
    (state.lane config id).Numbered := by
  refine reached.induction_on (fun state => (state.lane config id).Numbered) ?_ ?_
  · refine ⟨List.nodup_nil, ?_, ?_, ?_⟩ <;>
      simp [Lane.queue, State.lane, State.initial, State.ring, State.pendingFor, slotsOf]
  · intro before event after _ numbered taken _
    exact numbered.move (step_lane taken id)

/-- The calls of the slots of a JFC are different. -/
theorem slots_nodup {config : Config} {state : State} {guard : State → Event → State → Prop}
    (reached : Reaches (step config) guard .initial state) (id : Nat) :
    ((slotsOf id state.trace).map Slot.call).Nodup :=
  (numbered_of_reaches reached id).distinct.sublist
    ((List.sublist_append_left _ _).trans (List.sublist_append_left _ _))

end Udma.Cq
