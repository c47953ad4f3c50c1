import Udma.Sq.Lock

/-!
# The prefetch cache

The cache holds one entry for each position from `issue` up to `next_fetch`; an
entry is empty as long as the read that covers it is outstanding.  A `Stock` is
what this depends on for one lane.  What an arrived block must satisfy is a
parameter: at least its size, and its contents where the reads are known.
-/

namespace Udma.Sq

open Udma.Abi Udma.Arithmetic Udma.Collections Udma.Transition

structure Stock where
  issue : Nat
  nextFetch : Nat
  inflight : Nat
  failed : Bool
  cache : Cache
  /-- Start and length of the outstanding reads. -/
  reads : List (Nat × Nat)
  filling : Nat

/-- Block `i` of the bytes a read returned. -/
def blockAt (bytes : Bytes) (i : Nat) : Bytes := (bytes.drop (i * wqebbBytes)).take wqebbBytes

theorem blockAt_length {bytes : Bytes} {count i : Nat}
    (size : bytes.length = count * wqebbBytes) (inside : i < count) :
    (blockAt bytes i).length = wqebbBytes := by
  simp only [blockAt, List.length_take, List.length_drop, size, wqebbBytes]
  omega

theorem Cache.fill_eq (cache : Cache) (start count : Nat) (bytes : Bytes) :
    cache.fill start count bytes = cache.map fun entry =>
      if start ≤ entry.1 ∧ entry.1 < start + count then
        (entry.1, blockAt bytes (entry.1 - start))
      else entry := rfl

/-- Cutting the front off a range of positions. -/
theorem range_filter (start count size : Nat) :
    (List.range' start size).filter (fun key =>
      !(decide (start ≤ key) && decide (key < start + count))) =
        List.range' (start + count) (size - count) := by
  rcases Nat.le_total count size with within | beyond
  · have split : size = count + (size - count) := by omega
    conv => lhs; rw [split, ← List.range'_append_1]
    rw [List.filter_append, List.filter_eq_nil_iff.mpr, List.filter_eq_self.mpr,
      List.nil_append]
    · intro key membership
      have := List.mem_range'_1.mp membership
      simp
      omega
    · intro key membership
      have := List.mem_range'_1.mp membership
      simp
      omega
  · rw [Nat.sub_eq_zero_of_le beyond, List.filter_eq_nil_iff.mpr]
    · rfl
    · intro key membership
      have := List.mem_range'_1.mp membership
      simp
      omega

namespace Stock

structure Sound (Valid : Nat → Bytes → Prop) (stock : Stock) : Prop where
  keys : stock.cache.map Prod.fst = List.range' stock.issue (stock.nextFetch - stock.issue)
  valid : ∀ entry ∈ stock.cache, entry.2 = [] ∨ Valid entry.1 entry.2
  pending : stock.failed = false → ∀ entry ∈ stock.cache, entry.2 = [] →
    ∃ read ∈ stock.reads, read.1 ≤ entry.1 ∧ entry.1 < read.1 + read.2
  counted : stock.inflight = stock.reads.length
  ahead : 0 < stock.filling → stock.issue ≤ stock.nextFetch

variable {Valid : Nat → Bytes → Prop} {issue nextFetch inflight filling : Nat} {failed : Bool}
  {cache : Cache} {reads : List (Nat × Nat)}

/-- The pipeline may only fail, and activations may only leave. -/
theorem Sound.weaken (sound : Sound Valid ⟨issue, nextFetch, inflight, failed, cache, reads, filling⟩)
    {broken : Bool} {fewer : Nat} (worse : failed = true → broken = true)
    (less : fewer ≤ filling) :
    Sound Valid ⟨issue, nextFetch, inflight, broken, cache, reads, fewer⟩ := by
  refine ⟨sound.keys, sound.valid, ?_, sound.counted, ?_⟩
  · intro intact
    apply sound.pending
    cases failed with
    | false => rfl
    | true =>
        have := worse rfl
        simp_all
  · intro positive
    exact sound.ahead (Nat.lt_of_lt_of_le positive less)

/-- The loop starts to fill: `next_fetch` catches up with `issue`. -/
theorem Sound.catchUp
    (sound : Sound Valid ⟨issue, nextFetch, inflight, failed, cache, reads, filling⟩)
    (more : Nat) :
    Sound Valid ⟨issue, max nextFetch issue, inflight, failed, cache, reads, more⟩ := by
  refine ⟨?_, sound.valid, sound.pending, sound.counted, fun _ => Nat.le_max_right _ _⟩
  have keys : cache.map Prod.fst = List.range' issue (nextFetch - issue) := sound.keys
  have same : max nextFetch issue - issue = nextFetch - issue := by omega
  simp only [same, keys]

/-- A read of `count` further blocks is issued. -/
theorem Sound.fetch
    (sound : Sound Valid ⟨issue, nextFetch, inflight, failed, cache, reads, filling⟩)
    (active : 0 < filling) (count : Nat) :
    Sound Valid ⟨issue, nextFetch + count, inflight + 1, failed,
      cache ++ (List.range count).map (fun i => (nextFetch + i, [])),
      reads ++ [(nextFetch, count)], filling⟩ := by
  have ahead : issue ≤ nextFetch := sound.ahead active
  have keys : cache.map Prod.fst = List.range' issue (nextFetch - issue) := sound.keys
  refine ⟨?_, ?_, ?_, ?_, fun _ => by dsimp only; omega⟩
  · have split : nextFetch + count - issue = (nextFetch - issue) + count := by omega
    have middle : issue + (nextFetch - issue) = nextFetch := by omega
    have added : ((List.range count).map fun i => (nextFetch + i, ([] : Bytes))).map Prod.fst =
        List.range' nextFetch count := by
      rw [List.map_map, List.range'_eq_map_range]
      rfl
    simp only [List.map_append, keys, added, split]
    rw [← List.range'_append_1, middle]
  · intro entry membership
    rcases List.mem_append.mp membership with old | new
    · exact sound.valid entry old
    · obtain ⟨i, _, rfl⟩ := List.mem_map.mp new
      exact .inl rfl
  · intro intact entry membership empty
    rcases List.mem_append.mp membership with old | new
    · obtain ⟨read, known, covered⟩ := sound.pending intact entry old empty
      exact ⟨read, List.mem_append_left _ known, covered⟩
    · obtain ⟨i, inside, rfl⟩ := List.mem_map.mp new
      have := List.mem_range.mp inside
      exact ⟨(nextFetch, count), by simp, by dsimp only; omega, by dsimp only; omega⟩
  · simpa using sound.counted

/-- A read returns and its blocks are stored. -/
theorem Sound.arrive {start count : Nat} {bytes : Bytes}
    (sound : Sound Valid ⟨issue, nextFetch, inflight, failed, cache, (start, count) :: reads,
      filling⟩)
    (size : bytes.length = count * wqebbBytes)
    (delivered : ∀ i < count, Valid (start + i) (blockAt bytes i)) :
    Sound Valid ⟨issue, nextFetch, inflight - 1, failed, cache.fill start count bytes, reads,
      filling⟩ := by
  refine ⟨?_, ?_, ?_, ?_, sound.ahead⟩
  · have kept : (cache.fill start count bytes).map Prod.fst = cache.map Prod.fst := by
      rw [Cache.fill_eq, List.map_map]
      apply List.map_congr_left
      intro entry _
      simp only [Function.comp_apply]
      split <;> rfl
    simpa [kept] using sound.keys
  · intro entry membership
    rw [Cache.fill_eq] at membership
    obtain ⟨old, known, rfl⟩ := List.mem_map.mp membership
    split
    next covered =>
      right
      have valid := delivered (old.1 - start) (by omega)
      rwa [Nat.add_sub_cancel' covered.1] at valid
    next outside => exact sound.valid old known
  · intro intact entry membership empty
    rw [Cache.fill_eq] at membership
    obtain ⟨old, known, rfl⟩ := List.mem_map.mp membership
    split at empty
    next covered =>
      have length := blockAt_length size (i := old.1 - start) (by omega)
      dsimp only at empty
      rw [empty] at length
      simp [wqebbBytes] at length
    next outside =>
      obtain ⟨read, held, covered⟩ := sound.pending intact old known empty
      rcases List.mem_cons.mp held with rfl | other
      · exact absurd covered outside
      · simp only [outside, ↓reduceIte]
        exact ⟨read, other, covered⟩
  · have counted : inflight = ((start, count) :: reads).length := sound.counted
    simp [counted]

/-- A read returns after a failure, or fails. -/
theorem Sound.discard {start count : Nat}
    (sound : Sound Valid ⟨issue, nextFetch, inflight, failed, cache, (start, count) :: reads,
      filling⟩) :
    Sound Valid ⟨issue, nextFetch, inflight - 1, true, cache, reads, filling⟩ := by
  refine ⟨sound.keys, sound.valid, by simp, ?_, sound.ahead⟩
  have counted : inflight = ((start, count) :: reads).length := sound.counted
  simp [counted]

/-- The blocks of a reserved descriptor leave the cache. -/
theorem Sound.consume
    (sound : Sound Valid ⟨issue, nextFetch, inflight, failed, cache, reads, 0⟩) (count : Nat) :
    Sound Valid ⟨issue + count, nextFetch, inflight, failed,
      cache.filter (fun entry =>
        !(decide (issue ≤ entry.1) && decide (entry.1 < issue + count))), reads, 0⟩ := by
  have keys : cache.map Prod.fst = List.range' issue (nextFetch - issue) := sound.keys
  refine ⟨?_, ?_, ?_, sound.counted, by simp⟩
  · have filtered : (cache.filter (fun entry =>
        !(decide (issue ≤ entry.1) && decide (entry.1 < issue + count)))).map Prod.fst =
        (cache.map Prod.fst).filter (fun key =>
          !(decide (issue ≤ key) && decide (key < issue + count))) := by
      rw [List.filter_map]
      rfl
    simp only [filtered, keys, range_filter, Nat.sub_sub]
  · intro entry membership
    exact sound.valid entry (List.mem_of_mem_filter membership)
  · intro intact entry membership
    exact sound.pending intact entry (List.mem_of_mem_filter membership)

theorem Sound.perm {other : List (Nat × Nat)}
    (sound : Sound Valid ⟨issue, nextFetch, inflight, failed, cache, reads, filling⟩)
    (same : reads.Perm other) :
    Sound Valid ⟨issue, nextFetch, inflight, failed, cache, other, filling⟩ := by
  refine ⟨sound.keys, sound.valid, ?_, ?_, sound.ahead⟩
  · intro intact entry membership empty
    obtain ⟨read, known, covered⟩ := sound.pending intact entry membership empty
    exact ⟨read, same.subset known, covered⟩
  · have counted : inflight = reads.length := sound.counted
    exact counted.trans same.length_eq

end Stock

/-! ## Lanes as stocks -/

def Callback.read : Callback → Option (Nat × Nat)
  | .prefetch _ start count => some (start, count)
  | _ => none

attribute [simp] Callback.read

def Lane.stock (lane : Lane) : Stock where
  issue := lane.pipe.issue
  nextFetch := lane.pipe.nextFetch
  inflight := lane.pipe.prefetchInflight
  failed := lane.pipe.prefetchFailed
  cache := lane.pipe.cache
  reads := gather Callback.read lane.calls
  filling := tally Task.filling lane.tasks

variable {Valid : Nat → Bytes → Prop}

theorem Ran.stocked {config : Config} {base after : State} {id : Nat} {task : Task}
    (ran : Ran config base id task after) (own : task.on id = true)
    (locked : ((base.push [task]).lane id).Locked)
    (sound : (((base.push [task]).lane id).stock).Sound Valid) :
    ((after.lane id).stock).Sound Valid := by
  unfold Lane.stock at sound ⊢
  cases ran with
  | absent task missing silent =>
      simp only [State.lane_push, tally_append] at sound
      exact sound.weaken (fun broken => broken) (Nat.le_add_left _ _)
  | completeAbsent => simpa using sound
  | processSq producer direct jetty _ existing outcome =>
      have same := base.lane_jetty id existing
      cases outcome <;> simpa [same] using sound
  | resumeSq jetty _ existing outcome =>
      have same := base.lane_jetty id existing
      cases outcome <;> simpa [same] using sound
  | processSqLoop producer jetty _ existing outcome =>
      have same := base.lane_jetty id existing
      simp [same] at sound
      cases outcome with
      | filling clear behind near => simpa using sound.catchUp _
      | _ => simpa using sound
  | fillSqCache producer targetProducer jetty _ existing outcome =>
      have same := base.lane_jetty id existing
      simp [same] at sound
      cases outcome with
      | fetched => simpa using sound.fetch (by omega) (prefetchCount config jetty.context jetty.pipe)
      | _ => simpa [same] using sound
  | executeSqHead producer targetProducer jetty _ existing outcome =>
      have same := base.lane_jetty id existing
      simp [same] at sound
      cases outcome with
      | malformed => simpa using sound.weaken (fun _ => rfl) (Nat.le_add_left _ _)
      | _ => simpa [same] using sound.weaken (fun broken => broken) (Nat.le_add_left _ _)
  | continueLast raw nextSlot => simpa using sound
  | continueRead raw remaining nextSlot jetty existing more => simpa using sound
  | handleSqWqe raw jetty _ existing outcome =>
      have same := base.lane_jetty id existing
      have none := locked.fills_eq_zero own rfl
      simp [same, none] at sound
      cases outcome with
      | failed =>
          simpa [Jetty.fail, Jetty.release, none] using
            sound.weaken (fun _ => rfl) (Nat.le_refl 0)
      | released => simpa [Jetty.release, none] using sound
      | read => simpa [reserveSq, SqPipeline.reserve, none] using sound.consume _
      | prepared =>
          simpa [prepareWrite, reserveSq, SqPipeline.reserve, none] using sound.consume _
      | rejected =>
          simpa [rejectSend, reserveSq, SqPipeline.reserve, none] using sound.consume _
      | inlined => simpa [same, none] using sound
      | reading => simpa [same, none] using sound
  | drainPreparedWrites jetty _ existing outcome =>
      have same := base.lane_jetty id existing
      cases outcome <;> simpa [same] using sound
  | submitSqPayload raw payload reserved jetty _ existing outcome =>
      have same := base.lane_jetty id existing
      cases outcome with
      | released => simpa [same, Jetty.release] using sound
      | lost => simpa using sound
      | freshSend =>
          have none := locked.fills_eq_zero own rfl
          simp [same, none] at sound
          simpa [reserveSq, SqPipeline.reserve, none] using sound.consume _
      | freshWrite =>
          have none := locked.fills_eq_zero own rfl
          simp [same, none] at sound
          simpa [reserveSq, SqPipeline.reserve, none] using sound.consume _
      | heldSend => simpa [same] using sound
      | heldWrite => simpa [same] using sound
  | releaseSqFetch jetty existing =>
      have same := base.lane_jetty id existing
      simpa [same, Jetty.release] using sound
  | completeSq request status substatus jetty _ existing outcome =>
      have same := base.lane_jetty id existing
      cases outcome <;> simpa [same] using sound
  | retireSq jetty _ existing outcome =>
      have same := base.lane_jetty id existing
      cases outcome with
      | skipped => simpa [same] using sound
      | entered =>
          unfold retireLoop
          split <;> simpa [same] using sound
  | retireSqLoop jetty _ existing outcome =>
      have same := base.lane_jetty id existing
      cases outcome with
      | stopped => simpa [same] using sound
      | published =>
          unfold publishSq
          split <;> simpa [same] using sound
  | retireSqPipelinedLoop jetty _ existing outcome =>
      have same := base.lane_jetty id existing
      cases outcome with
      | stopped => simpa [same] using sound
      | published =>
          unfold publishSq
          split <;> simpa [same] using sound
  | finishKept entry => simpa using sound
  | finishPopped entry jetty existing =>
      have same := base.lane_jetty id existing
      simpa [same, SqPipeline.pop] using sound
  | finishSqPipelined entry ok jetty _ existing outcome =>
      have same := base.lane_jetty id existing
      simp [same] at sound
      cases outcome with
      | broken => simpa using sound.weaken (fun _ => rfl) (Nat.le_refl _)
      | retired => simpa [SqPipeline.retire] using sound

theorem Called.stocked {config : Config} {base after : State} {ok : Bool} {bytes : Bytes}
    {id : Nat} {callback : Callback}
    (called : Called config base ok bytes id callback after)
    (delivered : ∀ start count, callback = .prefetch id start count → ok = true →
      bytes.length = count * wqebbBytes → ∀ i < count, Valid (start + i) (blockAt bytes i))
    (sound : (Lane.stock { base.lane id with calls := callback :: (base.lane id).calls }).Sound
      Valid) :
    ((after.lane id).stock).Sound Valid := by
  unfold Lane.stock at sound ⊢
  cases called with
  | absent callback missing =>
      have blank := base.lane_jetty_none id missing
      have counted := sound.counted
      simp only [Lane.pipe, blank, Jetty.blank_pipe, gather_cons, List.length_append] at counted
      have none : gather Callback.read (base.lane id).calls = [] :=
        List.eq_nil_of_length_eq_zero (by omega)
      refine ⟨sound.keys, sound.valid, ?_, ?_, sound.ahead⟩
      · simp [blank]
      · simp [blank, none]
  | prefetch start count jetty _ existing outcome =>
      have same := base.lane_jetty id existing
      simp [same] at sound
      cases outcome with
      | failed reason => simpa [SqPipeline.prefetched] using sound.discard
      | arrived intact good size =>
          have arrived := sound.arrive size (delivered start count rfl good size)
          simpa [SqPipeline.prefetched, intact] using arrived
  | continuation raw remaining nextSlot contiguous jetty _ existing outcome =>
      have same := base.lane_jetty id existing
      simp [same] at sound
      cases outcome with
      | failed =>
          simpa [Jetty.fail, Jetty.release] using
            sound.weaken (fun _ => rfl) (Nat.le_refl _)
      | arrived => simpa [same] using sound
  | writePayload position expected jetty existing =>
      have same := base.lane_jetty id existing
      simpa [same] using sound
  | sendPayload raw expected jetty _ existing outcome =>
      have same := base.lane_jetty id existing
      simp [same] at sound
      cases outcome with
      | failed =>
          simpa [Jetty.fail, Jetty.release] using
            sound.weaken (fun _ => rfl) (Nat.le_refl _)
      | arrived => simpa [same] using sound
  | sendFailed request requestId bad =>
      split
      · simpa [State.lane] using sound
      · simpa using sound
  | writeSent request requestId good opcode => simpa using sound
  | sendDone request requestId good opcode => simpa using sound
  | cqe entry => split <;> simpa using sound

theorem Acts.stocked {config : Config} {id : Nat} {state after : State} {event : Event}
    (acts : Acts config id state event after) (locked : (state.lane id).Locked)
    (delivered : ∀ index ok bytes start count, event = .fire index ok bytes →
      state.outstanding[index]? = some (.prefetch id start count) → ok = true →
      bytes.length = count * wqebbBytes → ∀ i < count, Valid (start + i) (blockAt bytes i))
    (sound : ((state.lane id).stock).Sound Valid) : ((after.lane id).stock).Sound Valid := by
  cases acts with
  | task base task _ before own calm ran =>
      exact ran.stocked own (before ▸ locked) (before ▸ sound)
  | callback index ok bytes callback calls base _ own calm before chosen held called =>
      refine called.stocked ?_ ?_
      · rintro start count rfl good size
        apply delivered index ok bytes start count rfl _ good size
        rw [before]
        exact chosen
      · rw [before, State.lane_holding] at sound
        unfold Lane.stock at sound ⊢
        refine sound.perm (gather_perm ?_)
        have := held.filter (Callback.on id)
        rwa [List.filter_cons_of_pos own] at this
  | progressed _ _ pending progress earlier later observed calm held owner request silent lane =>
      rw [lane]
      exact sound
  | finished _ _ pending earlier later status calm held lane =>
      rw [lane]
      unfold Lane.stock at sound ⊢
      simpa using sound
  | doorbell producer calm =>
      unfold Lane.stock at sound ⊢
      simpa using sound
  | direct offset data jetty _ calm existing outcome =>
      have same := state.lane_jetty id existing
      unfold Lane.stock at sound ⊢
      simp only [Lane.pipe, same] at sound
      cases outcome with
      | stored => simpa [Jetty.pipe] using sound
      | completed => simpa [Jetty.pipe] using sound
  | created context jetty calm missing fresh =>
      rw [State.lane_setJetty]
      unfold Lane.stock at sound ⊢
      simpa [missing, fresh.pipe] using sound

theorem Stock.initial_sound (config : Config) (id : Nat) :
    (((State.initial config).lane id).stock).Sound Valid := by
  rw [State.initial_lane]
  exact ⟨rfl, by simp [Lane.stock], by simp [Lane.stock], rfl, by simp [Lane.stock]⟩

/-- In every run the blocks of the cache are complete. -/
theorem stocked_of_reaches {config : Config} {guard : State → Event → State → Prop}
    {state : State} (reached : Reaches (step config) guard (State.initial config) state)
    (id : Nat) :
    ((state.lane id).stock).Sound fun _ block => block.length = wqebbBytes := by
  refine lane_of_reaches id (fun lane => lane.stock.Sound _) reached
    (Stock.initial_sound config id) ?_
  intro before event after earlier sound acts _ _
  refine acts.stocked (locked_of_reaches earlier id) ?_ sound
  intro index ok bytes start count _ _ _ size i inside
  exact blockAt_length size inside

end Udma.Sq
