import Udma.Cq.Order

/-!
# CQ slots in use

A CQE is written only into a slot that the consumer index has passed, and two CQE
writes of one JFC that are in flight together go to different slots.  The consumer
index has 22 bits and may be stale; what is assumed of it is that it never passes a
CQE whose write has not ended.
-/

namespace Udma.Cq

open Udma.Abi Udma.Arithmetic Udma.Collections Udma.Transition

variable {config : Config} {state before after : State} {event : Event} {id : Nat}

/-! ## Index arithmetic -/

/-- How far a 22-bit consumer index is behind the producer. -/
def lag (producer consumer : Nat) : Nat := (producer + (2 ^ 22 - consumer % 2 ^ 22)) % 2 ^ 22

theorem and_indexMask (value : Nat) : value &&& indexMask = value % 2 ^ 22 :=
  Nat.and_two_pow_sub_one_eq_mod value 22

theorem Ring.used_eq_lag (ring : Ring) : ring.used = lag ring.producer ring.consumer := by
  unfold Ring.used lag sub32
  rw [and_indexMask]
  omega

theorem Ring.usedSince_eq_lag (ring : Ring) (consumer : Nat) :
    ring.usedSince consumer = lag ring.producer consumer := by
  unfold Ring.usedSince lag sub32
  rw [and_indexMask, and_indexMask]
  omega

theorem lag_mask (producer consumer : Nat) :
    lag producer (consumer &&& indexMask) = lag producer consumer := by
  rw [and_indexMask]
  unfold lag
  omega

theorem lag_succ {producer consumer : Nat} (small : lag producer consumer < 2 ^ 21) :
    lag (producer + 1) consumer = lag producer consumer + 1 := by
  unfold lag at *
  omega

theorem Ring.depth_le (ring : Ring) : ring.depth ≤ 2 ^ 21 := by
  unfold Ring.depth
  rw [Nat.one_shiftLeft]
  exact Nat.pow_le_pow_right (by decide) (by omega)

theorem Ring.depth_pos (ring : Ring) : 0 < ring.depth := by
  unfold Ring.depth
  rw [Nat.one_shiftLeft]
  exact Nat.two_pow_pos _

/-! ## Writes in flight -/

/-- The slots of a lane whose CQE is being written. -/
def Lane.flying (lane : Lane) : List Slot :=
  lane.slots.filter fun slot => lane.writing.any fun publication => publication.call == slot.call

/-- The slots of a JFC whose CQE is being written. -/
def State.inFlight (state : State) (id : Nat) : List Slot :=
  (slotsOf id state.trace).filter fun slot =>
    (state.outstanding.filterMap (Callback.writing id)).any fun publication =>
      publication.call == slot.call

/-- The consumer indices that a callback brings. -/
def Input.indices (input : Input) : List (Nat × Nat) := input.query.toList ++ input.refresh.toList

/-- The consumer index that the guest publishes has not passed a CQE whose write has
not ended: counted back from the producer, that CQE is among those not consumed. -/
def Honest (before : State) (event : Event) (_after : State) : Prop :=
  ∀ read ∈ (before.input event).indices, ∀ ring ∈ before.ring read.1,
    ∀ slot ∈ before.inFlight read.1, ring.producer - slot.producer ≤ ring.usedSince read.2

instance (before : State) (event : Event) (after : State) :
    Decidable (Honest before event after) :=
  inferInstanceAs (Decidable (∀ read ∈ (before.input event).indices,
    ∀ ring ∈ before.ring read.1, ∀ slot ∈ before.inFlight read.1, _))

/-- A slot that was given out and whose CQE has not been written, seen from the ring. -/
def Slot.Fits (pipelined : Bool) (ring : Ring) (slot : Slot) : Prop :=
  slot.generation = ring.generation ∧
    if pipelined then
      slot.producer < ring.producer ∧ ring.producer - slot.producer ≤ ring.depth ∧
        ring.producer - slot.producer ≤ ring.used
    else slot.producer = ring.producer

structure Lane.Safe (pipelined : Bool) (lane : Lane) : Prop where
  distinct : lane.queue.Nodup
  below : ∀ call ∈ lane.queue, call < lane.calls
  flying : ∀ slot ∈ lane.flying, ∃ ring, lane.ring = some ring ∧ slot.Fits pipelined ring

namespace Lane.Safe

variable {pipelined : Bool} {lane next : Lane} {input : Input}

/-- Nothing is written that was not written before, and the ring stays. -/
theorem of_eq (safe : lane.Safe pipelined) (queue : next.queue.Sublist lane.queue)
    (calls : lane.calls ≤ next.calls) (slots : next.slots = lane.slots)
    (writing : next.writing ⊆ lane.writing) (ring : next.ring = lane.ring) :
    next.Safe pipelined where
  distinct := queue.nodup safe.distinct
  below := fun call held => (safe.below call (queue.subset held)).trans_le calls
  flying := by
    intro slot held
    rw [ring]
    apply safe.flying slot
    simp only [Lane.flying, slots, List.mem_filter, List.any_eq_true] at held ⊢
    obtain ⟨given, publication, own, same⟩ := held
    exact ⟨given, publication, writing own, same⟩

/-- The ring moves, or goes, while its writes still fit. -/
theorem of_ring (safe : lane.Safe pipelined) (ring : Option Ring) (generations : Nat)
    (fits : ∀ slot ∈ lane.flying, ∃ new, ring = some new ∧ slot.Fits pipelined new) :
    ({ lane with
        ring := ring
        generations := generations } : Lane).Safe pipelined where
  distinct := safe.distinct
  below := safe.below
  flying := fits

theorem flying_nil {lane : Lane} (idle : lane.writing = []) : lane.flying = [] := by
  simp [Lane.flying, idle]

/-- A publication that had no slot gets the one at the producer. -/
theorem reserve {publication : Publication} {ring : Ring} {consumer : Nat}
    (distinct : (publication.call :: lane.queue).Nodup)
    (below : ∀ call ∈ publication.call :: lane.queue, call < lane.calls)
    (flying : ∀ slot ∈ lane.flying, slot.Fits pipelined
      { ring with
        consumer := consumer
        producer := if pipelined then ring.producer + 1 else ring.producer })
    (room : ring.usedSince consumer < ring.depth) :
    (lane.reserve pipelined ring publication consumer).Safe pipelined where
  distinct := by
    have moved : (lane.reserve pipelined ring publication consumer).queue.Perm
        (publication.call :: lane.queue) := by
      simp only [Lane.queue, Lane.reserve, List.map_append, List.map_cons, List.map_nil,
        List.append_assoc, List.singleton_append]
      exact List.perm_middle
    exact moved.nodup_iff.mpr distinct
  below := by
    intro call held
    apply below call
    simp only [Lane.queue, Lane.reserve, List.map_append, List.map_cons, List.map_nil,
      List.append_assoc, List.mem_append, List.mem_cons, List.not_mem_nil, or_false] at held ⊢
    tauto
  flying := by
    intro slot held
    refine ⟨_, rfl, ?_⟩
    simp only [Lane.flying, Lane.reserve, List.mem_filter, List.mem_append, List.mem_singleton,
      List.any_append, Bool.or_eq_true, List.any_cons, List.any_nil, Bool.or_false,
      beq_iff_eq] at held
    obtain ⟨given | rfl, own⟩ := held
    · rcases own with earlier | same
      · exact flying slot (List.mem_filter.mpr ⟨given, earlier⟩)
      · have listed : publication.call ∈ lane.queue := by
          simp only [Lane.queue, List.mem_append, List.mem_map]
          exact .inl (.inl ⟨slot, given, same.symm⟩)
        exact absurd listed (List.nodup_cons.mp distinct).1
    · rw [Ring.usedSince_eq_lag] at room
      have bound := ring.depth_le
      have next := lag_succ (show lag ring.producer consumer < 2 ^ 21 by omega)
      have positive := ring.depth_pos
      cases pipelined with
      | true =>
          refine ⟨rfl, Nat.lt_succ_self _, ?_, ?_⟩
          · change ring.producer + 1 - ring.producer ≤ ring.depth
            omega
          · rw [Ring.used_eq_lag]
            change ring.producer + 1 - ring.producer ≤ lag (ring.producer + 1) consumer
            omega
      | false => exact ⟨rfl, rfl⟩

/-- Slots that the consumer index has not passed still fit after a reservation. -/
theorem fits_advance {slot : Slot} {ring : Ring} {consumer : Nat}
    (fits : slot.Fits true ring) (unpassed : ring.producer - slot.producer ≤ ring.usedSince consumer)
    (room : ring.usedSince consumer < ring.depth) :
    slot.Fits true { ring with consumer := consumer, producer := ring.producer + 1 } := by
  obtain ⟨generation, given, _, _⟩ := fits
  rw [Ring.usedSince_eq_lag] at unpassed room
  have bound := ring.depth_le
  have next := lag_succ (show lag ring.producer consumer < 2 ^ 21 by omega)
  refine ⟨generation, given.trans (Nat.lt_succ_self _), ?_, ?_⟩
  · change ring.producer + 1 - slot.producer ≤ ring.depth
    omega
  · rw [Ring.used_eq_lag]
    change ring.producer + 1 - slot.producer ≤ lag (ring.producer + 1) consumer
    omega

theorem move (safe : lane.Safe pipelined) (moved : Lane.Move pipelined input id lane next)
    (held : lane.reading.length + lane.writing.length ≤ lane.load)
    (serial : pipelined = false → lane.load ≤ 1)
    (vacant : input.install = some id → lane.ring = none)
    (honest : ∀ consumer, (id, consumer) ∈ input.indices → ∀ ring, lane.ring = some ring →
      ∀ slot ∈ lane.flying, ring.producer - slot.producer ≤ ring.usedSince consumer) :
    next.Safe pipelined := by
  have distinct := safe.distinct
  have below := safe.below
  cases moved with
  | kept calls generations later _ =>
      exact safe.of_eq (List.Sublist.refl _) later rfl (List.Subset.refl _) rfl
  | turnedAway publication call origin =>
      exact safe.of_eq (List.Sublist.refl _) (Nat.le_succ _) rfl (List.Subset.refl _) rfl
  | accepted publication call origin =>
      refine ⟨?_, ?_, safe.flying⟩
      · simp only [Lane.queue, List.map_append, List.map_cons, List.map_nil, ← List.append_assoc]
        refine List.nodup_append.mpr ⟨distinct, List.nodup_singleton _, ?_⟩
        intro one listed other new
        rw [List.mem_singleton.mp new, call]
        exact (below one listed).ne
      · intro other listed
        simp only [Lane.queue, List.map_append, List.map_cons, List.map_nil, ← List.append_assoc]
          at listed
        rcases List.mem_append.mp listed with earlier | new
        · exact (below other earlier).trans (Nat.lt_succ_self _)
        · rw [List.mem_singleton.mp new, call]
          exact Nat.lt_succ_self _
  | refused waiting =>
      refine safe.of_eq ?_ le_rfl rfl (List.Subset.refl _) rfl
      simp only [Lane.queue, Lane.granted, waiting, List.map_cons]
      exact (List.Sublist.refl _).append (List.sublist_cons_self _ _)
  | refreshing waiting found full =>
      refine safe.of_eq ?_ le_rfl rfl (List.Subset.refl _) rfl
      simp [Lane.queue, Lane.granted, waiting]
  | @reserved publication rest ring mode waiting found room unused =>
      subst mode
      have order : lane.queue.Perm (publication.call :: (lane.granted rest).queue) := by
        simp only [Lane.queue, Lane.granted, waiting, List.map_cons]
        exact List.perm_middle
      refine Lane.Safe.reserve (order.nodup_iff.mp distinct)
        (fun call listed => below call (order.mem_iff.mpr listed)) ?_ unused
      intro slot flies
      obtain ⟨own, present, fits⟩ := safe.flying slot flies
      obtain rfl := Option.some.inj (found.symm.trans present)
      refine fits_advance fits ?_ unused
      rw [Ring.usedSince_eq_lag, lag_mask, ← Ring.used_eq_lag]
      exact fits.2.2.2
  | unread shape =>
      refine safe.of_eq ?_ le_rfl rfl (List.Subset.refl _) rfl
      simp only [Lane.queue, shape, List.map_append, List.map_cons]
      refine List.Sublist.append ?_ (List.Sublist.refl _)
      refine (List.Sublist.refl _).append ?_
      exact (List.Sublist.refl _).append (List.sublist_cons_self _ _)
  | @refreshed publication earlier later ring consumer shape found read unused =>
      have order : lane.queue.Perm (publication.call ::
          ({ lane with reading := earlier ++ later } : Lane).queue) := by
        have middle : (lane.slots.map Slot.call ++ earlier.map Publication.call ++
            publication.call :: (later.map Publication.call ++
              lane.pending.map Publication.call)).Perm
            (publication.call :: (lane.slots.map Slot.call ++ earlier.map Publication.call ++
              (later.map Publication.call ++ lane.pending.map Publication.call))) :=
          List.perm_middle
        simpa [Lane.queue, shape, List.append_assoc] using middle
      refine Lane.Safe.reserve (order.nodup_iff.mp distinct)
        (fun call listed => below call (order.mem_iff.mpr listed)) ?_ unused
      intro slot flies
      obtain ⟨own, present, fits⟩ := safe.flying slot flies
      obtain rfl := Option.some.inj (found.symm.trans present)
      cases pipelined with
      | true =>
          have index : (id, consumer) ∈ input.indices := by simp [Input.indices, read]
          exact fits_advance fits (honest consumer index ring found slot flies) unused
      | false =>
          have idle : lane.writing = [] := by
            have one := serial rfl
            rw [shape, List.length_append, List.length_cons] at held
            exact List.length_eq_zero_iff.mp (by omega)
          have none := flying_nil idle
          change slot ∈ lane.flying at flies
          rw [none] at flies
          simp at flies
  | @written publication earlier later ring shape moved =>
      rcases moved with same | ⟨mode, old, found, new⟩
      · refine safe.of_eq (List.Sublist.refl _) le_rfl rfl ?_ same
        rw [shape]
        exact List.Sublist.subset
          ((List.Sublist.refl _).append (List.sublist_cons_self _ _))
      · have one := serial mode
        rw [shape, List.length_append, List.length_cons] at held
        obtain rfl : earlier = [] := List.length_eq_zero_iff.mp (by omega)
        obtain rfl : later = [] := List.length_eq_zero_iff.mp (by omega)
        refine ⟨distinct, below, ?_⟩
        rw [flying_nil rfl]
        simp
  | released => exact safe.of_eq (List.Sublist.refl _) le_rfl rfl (List.Subset.refl _) rfl
  | @queried ring consumer asked found =>
      refine safe.of_ring _ lane.generations ?_
      intro slot flies
      refine ⟨_, rfl, ?_⟩
      obtain ⟨own, present, fits⟩ := safe.flying slot flies
      obtain rfl := Option.some.inj (found.symm.trans present)
      cases pipelined with
      | true =>
          have index : (id, consumer) ∈ input.indices := by simp [Input.indices, asked]
          have unpassed := honest consumer index ring found slot flies
          obtain ⟨generation, given, near, _⟩ := fits
          refine ⟨generation, given, near, ?_⟩
          rw [Ring.used_eq_lag]
          rwa [Ring.usedSince_eq_lag] at unpassed
      | false => exact fits
  | erased empty unloaded =>
      have idle : lane.writing = [] := List.length_eq_zero_iff.mp (by omega)
      refine safe.of_ring _ lane.generations ?_
      rw [flying_nil idle]
      simp
  | installed queueIova shift installing =>
      refine safe.of_ring _ _ ?_
      intro slot flies
      obtain ⟨ring, present, _⟩ := safe.flying slot flies
      simp [vacant installing] at present

end Lane.Safe

/-- In serial mode a queue runs one publication at a time. -/
theorem serial_load_le (serial : config.pipelinedCompletionDma = false) (state : State)
    (id : Nat) : (state.lane config id).load ≤ 1 := by
  change state.load config id ≤ 1
  unfold State.load PublicationQueue.load
  cases state.jfcPublications.lookup id with
  | none => simp
  | some queue => simp [serial, Bool.toNat_le]

theorem safe_of_reaches (reached : Reaches (step config) Honest .initial state) (id : Nat) :
    (state.lane config id).Safe config.pipelinedCompletionDma := by
  refine reached.induction_on
    (fun state => (state.lane config id).Safe config.pipelinedCompletionDma) ?_ ?_
  · exact ⟨List.nodup_nil, by simp [Lane.queue, State.lane, State.initial, slotsOf, State.pendingFor],
      by simp [Lane.flying, State.lane, State.initial, slotsOf]⟩
  · intro before event after earlier safe taken honest
    refine safe.move (step_lane taken id) (held_le_load (balanced_of_reaches earlier) id)
      (fun mode => serial_load_le mode before id) (filed_of_reaches earlier).install_none ?_
    intro consumer index ring found slot flies
    exact honest (id, consumer) index ring found slot flies

/-- Two slots of a window no wider than the ring are different. -/
theorem mod_ne_of_window {depth producer first second : Nat} (order : first < second)
    (given : second < producer) (near : producer - first ≤ depth) :
    first % depth ≠ second % depth := by
  intro same
  have multiple : depth ∣ second - first :=
    Nat.dvd_of_mod_eq_zero (Nat.sub_mod_eq_zero_of_mod_eq same.symm)
  have short : depth ≤ second - first := Nat.le_of_dvd (by omega) multiple
  omega

/-- The CQE writes of a JFC that are in flight together go to different slots. -/
theorem inFlight_apart (reached : Reaches (step config) Honest .initial state) {ring : Ring}
    (found : state.ring id = some ring) :
    (state.inFlight id).Pairwise fun first second =>
      first.producer % ring.depth ≠ second.producer % ring.depth := by
  have safe := safe_of_reaches reached id
  have fits : ∀ slot ∈ state.inFlight id, slot.Fits config.pipelinedCompletionDma ring := by
    intro slot flies
    obtain ⟨own, present, fits⟩ := safe.flying slot flies
    obtain rfl := Option.some.inj (found.symm.trans present)
    exact fits
  cases mode : config.pipelinedCompletionDma with
  | true =>
      have climbing := (climbs_of_reaches mode reached id).climbing
      refine List.Pairwise.imp_of_mem ?_ (climbing.sublist List.filter_sublist)
      intro first second one two before
      rw [mode] at fits
      obtain ⟨sameFirst, _, near, _⟩ := fits first one
      obtain ⟨sameSecond, given, _, _⟩ := fits second two
      have order : first.producer < second.producer := by
        rcases before with older | ⟨_, below⟩
        · omega
        · exact below
      exact mod_ne_of_window order given near
  | false =>
      have alone : (state.lane config id).writing.length ≤ 1 := by
        have held := held_le_load (balanced_of_reaches reached) id
        have one := serial_load_le mode state id
        omega
      have calls : ((slotsOf id state.trace).map Slot.call).Nodup :=
        safe.distinct.sublist
          ((List.sublist_append_left _ _).trans (List.sublist_append_left _ _))
      have within : (state.inFlight id).Sublist (slotsOf id state.trace) := List.filter_sublist
      have different := (List.pairwise_map.mp calls).sublist within
      refine List.Pairwise.imp_of_mem ?_ different
      intro first second one two apart
      obtain ⟨_, own⟩ := List.mem_filter.mp one
      obtain ⟨_, other⟩ := List.mem_filter.mp two
      obtain ⟨publication, held, same⟩ := List.any_eq_true.mp own
      obtain ⟨rival, alsoHeld, alsoSame⟩ := List.any_eq_true.mp other
      have single : publication = rival :=
        eq_of_length_le_one alone held alsoHeld
      rw [beq_iff_eq] at same alsoSame
      exact absurd (same.symm.trans (single ▸ alsoSame)) apart

/-! ## The reservation -/

/-- The owner bit of a CQE image. -/
def ownerBit (bytes : Bytes) : Bool := (byteAt bytes 0).testBit 2

theorem ownerBit_makeCqe (owner : Bool) (cqe : Cqe) : ownerBit (makeCqe owner cqe) = owner := by
  have first (word : Nat) : (UInt8.ofNat word).toNat.testBit 2 = word.testBit 2 := by
    rw [UInt8.toNat_ofNat']
    exact Nat.testBit_mod_two_pow word 8 2 |>.trans (by simp)
  have head : byteAt (makeCqe owner cqe) 0 = (UInt8.ofNat (cqe.receive.toNat |||
      (cqe.jetty.toNat <<< 1) ||| (owner.toNat <<< 2) ||| ((cqe.opcode &&& 7) <<< 4) |||
      (cqe.substatus <<< 16) ||| (cqe.status <<< 24))).toNat := rfl
  rw [ownerBit, head, first]
  have receive : cqe.receive.toNat.testBit 2 = false := by cases cqe.receive <;> rfl
  have jetty : cqe.jetty.toNat.testBit 1 = false := by cases cqe.jetty <;> rfl
  have own : owner.toNat.testBit 0 = owner := by cases owner <;> rfl
  simp [Nat.testBit_or, Nat.testBit_shiftLeft, receive, jetty, own]

/-- The parity of the lap a producer is in. -/
def evenLap (producer depth : Nat) : Bool := producer / depth % 2 == 0

theorem Ring.slot_owner (ring : Ring) (publication : Publication) :
    ownerBit (ring.slot publication).bytes = evenLap ring.producer ring.depth := by
  rw [Ring.slot_bytes, ownerBit_makeCqe, evenLap, Nat.and_one_is_mod]

theorem Ring.slot_place (ring : Ring) (publication : Publication) :
    (ring.slot publication).address =
      ring.queueIova + ring.producer % ring.depth * cqeBytes := by
  rw [Ring.slot_address]
  unfold Ring.depth
  rw [Nat.one_shiftLeft, Nat.and_two_pow_sub_one_eq_mod]

/-- The next lap comes back to the slot with the other parity. -/
theorem evenLap_next (producer : Nat) {depth : Nat} (positive : 0 < depth) :
    (producer + depth) % depth = producer % depth ∧
      evenLap (producer + depth) depth = !evenLap producer depth := by
  refine ⟨Nat.add_mod_right _ _, ?_⟩
  unfold evenLap
  rw [Nat.add_div_right _ positive]
  rcases Nat.mod_two_eq_zero_or_one (producer / depth) with even | odd
  · have next : (producer / depth).succ % 2 = 1 := by omega
    rw [even, next]
    rfl
  · have next : (producer / depth).succ % 2 = 0 := by omega
    rw [odd, next]
    rfl

/-- A slot is given at the producer of the ring, with room behind the consumer index. -/
theorem Lane.Move.slots_cases {pipelined : Bool} {input : Input} {lane next : Lane}
    (moved : Lane.Move pipelined input id lane next) :
    next.slots = lane.slots ∨
      ∃ ring publication consumer, lane.ring = some ring ∧
        next.slots = lane.slots ++ [ring.slot publication] ∧
        (consumer = ring.consumer &&& indexMask ∨ input.refresh = some (id, consumer)) ∧
        ring.usedSince consumer < ring.depth := by
  cases moved with
  | @reserved publication rest ring mode waiting found room unused =>
      exact .inr ⟨ring, publication, _, found, rfl, .inl rfl, unused⟩
  | @refreshed publication earlier later ring consumer shape found read unused =>
      exact .inr ⟨ring, publication, consumer, found, rfl, .inr read, unused⟩
  | _ => exact .inl rfl

/-- The cached consumer is the one that was last read from the guest. -/
theorem Lane.Move.consumer_cases {pipelined : Bool} {input : Input} {lane next : Lane}
    (moved : Lane.Move pipelined input id lane next) {new : Ring} (found : next.ring = some new) :
    (∃ old, lane.ring = some old ∧
        (new.consumer = old.consumer ∨ new.consumer = old.consumer &&& indexMask)) ∨
      (id, new.consumer) ∈ input.indices ∨
      new.consumer = 0 ∧ input.install = some id := by
  cases moved with
  | @reserved publication rest ring mode waiting present room unused =>
      obtain rfl := Option.some.inj found
      exact .inl ⟨ring, present, .inr rfl⟩
  | @refreshed publication earlier later ring consumer shape present read unused =>
      obtain rfl := Option.some.inj found
      exact .inr (.inl (by simp [Input.indices, read]))
  | written shape changed =>
      rcases changed with same | ⟨_, old, present, same⟩
      · exact .inl ⟨new, same ▸ found, .inl rfl⟩
      · obtain rfl := Option.some.inj (same.symm.trans found)
        exact .inl ⟨old, present, .inl rfl⟩
  | @queried ring consumer asked present =>
      obtain rfl := Option.some.inj found
      exact .inr (.inl (by simp [Input.indices, asked]))
  | erased empty unloaded => simp at found
  | installed queueIova shift installing =>
      obtain rfl := Option.some.inj found
      exact .inr (.inr ⟨rfl, installing⟩)
  | _ => exact .inl ⟨new, found, .inl rfl⟩

/-- The CQ of a JFC is safe.  A CQE is written at the producer, with the consumer index
that the guest published less than one lap behind; the image carries the parity of the
lap, which the next lap inverts; and the writes in flight are in different slots. -/
theorem cq_ring_safe (reached : Reaches (step config) Honest .initial before)
    (taken : step config before event = some after) (id : Nat) :
    (slotsOf id after.trace = slotsOf id before.trace ∨
      ∃ ring publication consumer, before.ring id = some ring ∧
        slotsOf id after.trace = slotsOf id before.trace ++ [ring.slot publication] ∧
        (consumer = ring.consumer &&& indexMask ∨
          (before.input event).refresh = some (id, consumer)) ∧
        ring.usedSince consumer < ring.depth ∧
        (ring.slot publication).address =
          ring.queueIova + ring.producer % ring.depth * cqeBytes ∧
        ownerBit (ring.slot publication).bytes = evenLap ring.producer ring.depth ∧
        (ring.producer + ring.depth) % ring.depth = ring.producer % ring.depth ∧
        evenLap (ring.producer + ring.depth) ring.depth =
          !ownerBit (ring.slot publication).bytes) ∧
      (∀ ring, after.ring id = some ring →
        (∃ old, before.ring id = some old ∧
            (ring.consumer = old.consumer ∨ ring.consumer = old.consumer &&& indexMask)) ∨
          (id, ring.consumer) ∈ (before.input event).indices ∨
          ring.consumer = 0 ∧ (before.input event).install = some id) ∧
      (∀ ring, before.ring id = some ring →
        (before.inFlight id).Pairwise fun first second =>
          first.producer % ring.depth ≠ second.producer % ring.depth) := by
  have moved := step_lane taken id
  refine ⟨?_, fun ring found => moved.consumer_cases found,
    fun ring found => inFlight_apart reached found⟩
  rcases moved.slots_cases with same | ⟨ring, publication, consumer, found, grown, index, room⟩
  · exact .inl same
  · have flip := evenLap_next ring.producer ring.depth_pos
    have owner := ring.slot_owner publication
    exact .inr ⟨ring, publication, consumer, found, grown, index, room,
      ring.slot_place publication, owner, flip.1, flip.2.trans (congrArg (!·) owner.symm)⟩

/-- The first of two CQEs is being written, and the second is about to be admitted. -/
def secondAdmitted : List Event :=
  created ++ [.writeCqe 7 .small] ++ pass 8 ++ [.writeCqe 7 .small] ++ pass 3

theorem cq_ring_safe_for_two_cqes :
    ∃ before after, Reaches (step (.small true)) Honest .initial before ∧
      step (.small true) before .run = some after ∧ (before.inFlight 7).length = 1 ∧
      (slotsOf 7 after.trace).length = 2 ∧
      ∃ ring publication consumer, before.ring 7 = some ring ∧
        slotsOf 7 after.trace = slotsOf 7 before.trace ++ [ring.slot publication] ∧
        consumer = ring.consumer &&& indexMask ∧ ring.usedSince consumer < ring.depth := by
  obtain ⟨before, reached, seen⟩ := exists_of_execute
    (show (execute (step (.small true)) Honest secondAdmitted .initial).map
      (fun before => ((before.inFlight 7).length, (slotsOf 7 before.trace).length,
        (step (.small true) before .run).map fun after => (slotsOf 7 after.trace).length)) =
        some (1, 1, some 2) by decide +kernel)
  obtain ⟨flying, counted, next⟩ : (before.inFlight 7).length = 1 ∧
      (slotsOf 7 before.trace).length = 1 ∧
      (step (.small true) before .run).map (fun after => (slotsOf 7 after.trace).length) =
        some 2 := by simpa using seen
  obtain ⟨after, taken, grown⟩ := Option.map_eq_some_iff.mp next
  refine ⟨before, after, reached, taken, flying, grown, ?_⟩
  rcases (cq_ring_safe reached taken 7).1 with same |
    ⟨ring, publication, consumer, found, longer, index, room, _⟩
  · rw [same, counted] at grown
    simp at grown
  · rcases index with cached | read
    · exact ⟨ring, publication, consumer, found, longer, cached, room⟩
    · simp [State.input] at read

end Udma.Cq
