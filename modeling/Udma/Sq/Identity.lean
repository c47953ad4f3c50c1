import Udma.Sq.Ledger

/-!
# Which descriptor is executed at a position

A descriptor comes from the ring, block by block through the cache or the
continuation, or from the direct window.  The `Desk` of a lane is what is under way
between these sources and `HandleSqWqe`.
-/

namespace Udma.Sq

open Udma.Abi Udma.Arithmetic Udma.Collections Udma.Transition

/-! ## The ring -/

/-- The blocks of `count` positions, one behind the other. -/
def ringImage (ring : Nat → Bytes) (position : Nat) : Nat → Bytes
  | 0 => []
  | count + 1 => ring position ++ ringImage ring (position + 1) count

theorem ringImage_add (ring : Nat → Bytes) (position first second : Nat) :
    ringImage ring position (first + second) =
      ringImage ring position first ++ ringImage ring (position + first) second := by
  induction first generalizing position with
  | zero => simp [ringImage]
  | succ first inductionHypothesis =>
      have next : position + (first + 1) = position + 1 + first := by omega
      rw [Nat.succ_add, ringImage, ringImage, inductionHypothesis, next, List.append_assoc]

/-- Bytes that are the blocks of the ring one by one. -/
theorem eq_ringImage {ring : Nat → Bytes} {position count : Nat} {bytes : Bytes}
    (size : bytes.length = count * wqebbBytes)
    (same : ∀ i < count, blockAt bytes i = ring (position + i)) :
    bytes = ringImage ring position count := by
  induction count generalizing position bytes with
  | zero =>
      rw [Nat.zero_mul] at size
      exact List.eq_nil_of_length_eq_zero size
  | succ count inductionHypothesis =>
      have first : bytes.take wqebbBytes = ring position := by
        simpa [blockAt] using same 0 (Nat.succ_pos _)
      have rest : bytes.drop wqebbBytes = ringImage ring (position + 1) count := by
        apply inductionHypothesis
        · rw [List.length_drop, size, Nat.succ_mul, Nat.add_sub_cancel]
        · intro i inside
          have later := same (i + 1) (by omega)
          have shift : position + 1 + i = position + (i + 1) := by omega
          rw [shift, ← later]
          simp only [blockAt, List.drop_drop]
          congr 2
          rw [Nat.succ_mul, Nat.add_comm]
      rw [ringImage, ← first, ← rest, List.take_append_drop]

/-- Cached blocks of the ring. -/
theorem Cache.blocks_eq_ringImage {ring : Nat → Bytes} {cache : Cache}
    (valid : ∀ entry ∈ cache, entry.2 = [] ∨ entry.2 = ring entry.1)
    {position count : Nat} {bytes : Bytes} (complete : cache.blocks position count = some bytes) :
    bytes = ringImage ring position count := by
  induction count generalizing position bytes with
  | zero => simpa [blocks, ringImage] using complete.symm
  | succ count inductionHypothesis =>
      unfold blocks at complete
      split at complete
      next => simp at complete
      next block found =>
        split at complete
        next => simp at complete
        next arrived =>
          obtain ⟨rest, tail, rfl⟩ := Option.map_eq_some_iff.mp complete
          have same : block = ring position :=
            (valid _ (find_mem found)).resolve_left (by simpa using arrived)
          rw [ringImage, ← inductionHypothesis tail, same]

/-- The producer field of a direct descriptor. -/
def producerField (raw : Bytes) : Nat := load32 raw 0 &&& 0xffff

/-- The descriptor is what the guest has posted at `position`: the blocks of the ring, or a
direct image that announces the position behind it. -/
inductive Posted (ring : Nat → Bytes) (images : List (Nat × Bytes)) (position : Nat)
    (raw : Bytes) : Prop where
  | ring (same : raw = ringImage ring position (SqWqe.wqebbCount (ring position)))
  | direct (producer : Nat) (offered : (producer, raw) ∈ images)
      (size : raw.length = wqebbBytes)
      (announced : producerField raw = (position + 1) % 2 ^ 16)

theorem Posted.mono {ring : Nat → Bytes} {images more : List (Nat × Bytes)} {position : Nat}
    {raw : Bytes} (posted : Posted ring images position raw) (fewer : images ⊆ more) :
    Posted ring more position raw := by
  cases posted with
  | ring same => exact .ring same
  | direct producer offered size announced =>
      exact .direct producer (fewer offered) size announced

/-- The first `count` blocks of the descriptor at `issue` are there, and the next one is in
`slot`. -/
structure Partly (ring : Nat → Bytes) (issue depth : Nat) (raw : Bytes)
    (count remaining slot : Nat) : Prop where
  same : raw = ringImage ring issue count
  total : SqWqe.wqebbCount (ring issue) = count + remaining
  fits : count + remaining ≤ depth
  slot : slot = (issue + count) % depth

/-- A part of the descriptor that is read up to the end of the ring. -/
theorem Partly.extend {ring : Nat → Bytes} {issue depth count remaining slot contiguous : Nat}
    {raw bytes : Bytes} (partly : Partly ring issue depth raw count remaining slot)
    (within : contiguous ≤ remaining) (straight : slot + contiguous ≤ depth)
    (size : bytes.length = contiguous * wqebbBytes)
    (supplied : ∀ i < contiguous, ∀ j < depth, (issue + j) % depth = slot + i →
      blockAt bytes i = ring (issue + j)) :
    Partly ring issue depth (raw ++ bytes) (count + contiguous) (remaining - contiguous)
      ((slot + contiguous) % depth) := by
  have fits := partly.fits
  have total := partly.total
  refine ⟨?_, by omega, by omega, ?_⟩
  · rw [ringImage_add, ← partly.same]
    congr 1
    apply eq_ringImage size
    intro i inside
    have place : (issue + (count + i)) % depth = slot + i := by
      rw [← Nat.add_assoc, Nat.add_mod, ← partly.slot, Nat.mod_eq_of_lt (a := i) (by omega),
        Nat.mod_eq_of_lt (by omega)]
    rw [supplied i inside (count + i) (by omega) place, Nat.add_assoc]
  · rw [partly.slot, Nat.mod_add_mod, Nat.add_assoc]

/-! ## What is under way -/

structure Desk where
  issue : Nat
  depth : Nat
  target : Nat
  pending : Bool
  /-- The direct window. -/
  image : Bytes
  /-- Descriptors on their way to `HandleSqWqe`. -/
  handled : List Bytes
  /-- Parts of a descriptor, with the remaining blocks and the slot of the next one. -/
  pieces : List (Bytes × Nat × Nat)
  /-- The same with the number of blocks that are read. -/
  reads : List (Bytes × Nat × Nat × Nat)
  /-- Direct images on their way to `ProcessSq`. -/
  offers : List (Nat × Bytes)
  images : List (Nat × Bytes)
  executed : List (Nat × Bytes)

namespace Desk

structure Sound (ring : Nat → Bytes) (desk : Desk) : Prop where
  handled : ∀ raw ∈ desk.handled, Posted ring desk.images desk.issue raw
  pieces : ∀ piece ∈ desk.pieces, ∃ count,
    Partly ring desk.issue desk.depth piece.1 count piece.2.1 piece.2.2
  reads : ∀ read ∈ desk.reads, read.2.2.2 ≤ read.2.1 ∧ read.2.2.1 + read.2.2.2 ≤ desk.depth ∧
    ∃ count, Partly ring desk.issue desk.depth read.1 count read.2.1 read.2.2.1
  offers : ∀ offer ∈ desk.offers, desk.pending = true ∧ offer.2 = desk.image ∧
    offer ∈ desk.images ∧ producerField offer.2 = offer.1 % 2 ^ 16
  waiting : desk.pending = true → desk.offers = [] →
    (∃ producer, (producer, desk.image) ∈ desk.images) ∧
      producerField desk.image = desk.target % 2 ^ 16
  executed : ∀ entry ∈ desk.executed, Posted ring desk.images entry.1 entry.2
  window : desk.image.length = wqebbBytes

variable {ring : Nat → Bytes} {issue depth target : Nat} {pending : Bool} {image : Bytes}
  {handled : List Bytes} {pieces : List (Bytes × Nat × Nat)}
  {reads : List (Bytes × Nat × Nat × Nat)} {offers images executed : List (Nat × Bytes)}

/-- Activations and reads leave. -/
theorem Sound.weaken {fewer : List Bytes} {left : List (Bytes × Nat × Nat)}
    {under : List (Bytes × Nat × Nat × Nat)}
    (sound : Sound ring ⟨issue, depth, target, pending, image, handled, pieces, reads, offers,
      images, executed⟩)
    (handles : fewer ⊆ handled) (parts : left ⊆ pieces) (calls : under ⊆ reads) :
    Sound ring ⟨issue, depth, target, pending, image, fewer, left, under, offers, images,
      executed⟩ :=
  ⟨fun raw membership => sound.handled raw (handles membership),
    fun piece membership => sound.pieces piece (parts membership),
    fun read membership => sound.reads read (calls membership), sound.offers, sound.waiting,
    sound.executed, sound.window⟩

/-- No image is waiting any more. -/
theorem Sound.clear
    (sound : Sound ring ⟨issue, depth, target, pending, image, handled, pieces, reads, [],
      images, executed⟩) (later : Nat) :
    Sound ring ⟨issue, depth, later, false, image, handled, pieces, reads, [], images,
      executed⟩ :=
  ⟨sound.handled, sound.pieces, sound.reads, by simp, by simp, sound.executed, sound.window⟩

/-- The producer moves while no image waits. -/
theorem Sound.merge
    (sound : Sound ring ⟨issue, depth, target, pending, image, handled, pieces, reads, offers,
      images, executed⟩) {later : Nat} (still : pending = true → later = target) :
    Sound ring ⟨issue, depth, later, pending, image, handled, pieces, reads, offers, images,
      executed⟩ := by
  refine ⟨sound.handled, sound.pieces, sound.reads, sound.offers, ?_, sound.executed,
    sound.window⟩
  intro waits none
  obtain rfl := still waits
  exact sound.waiting waits none

/-- `ProcessSq` takes the image and its producer over. -/
theorem Sound.accept {producer : Nat}
    (sound : Sound ring ⟨issue, depth, target, pending, image, handled, pieces, reads,
      [(producer, image)], images, executed⟩) :
    Sound ring ⟨issue, depth, producer, true, image, handled, pieces, reads, [], images,
      executed⟩ := by
  obtain ⟨_, _, known, announced⟩ := sound.offers (producer, image) (by simp)
  exact ⟨sound.handled, sound.pieces, sound.reads, by simp,
    fun _ _ => ⟨⟨producer, known⟩, announced⟩, sound.executed, sound.window⟩

/-- The image is handed to `HandleSqWqe`. -/
theorem Sound.direct
    (sound : Sound ring ⟨issue, depth, target, true, image, handled, pieces, reads, [], images,
      executed⟩) (level : (issue + 1) % 2 ^ 32 = target) :
    Sound ring ⟨issue, depth, target, false, image, image :: handled, pieces, reads, [], images,
      executed⟩ := by
  obtain ⟨⟨producer, known⟩, announced⟩ := sound.waiting rfl rfl
  refine ⟨?_, sound.pieces, sound.reads, by simp, by simp, sound.executed, sound.window⟩
  intro raw membership
  rcases List.mem_cons.mp membership with rfl | old
  · refine .direct producer known sound.window ?_
    have field : producerField raw = target % 2 ^ 16 := announced
    dsimp only
    omega
  · exact sound.handled raw old

/-- A descriptor of the ring is handed to `HandleSqWqe`. -/
theorem Sound.hand
    (sound : Sound ring ⟨issue, depth, target, pending, image, handled, pieces, reads, offers,
      images, executed⟩) {raw : Bytes}
    (same : raw = ringImage ring issue (SqWqe.wqebbCount (ring issue))) :
    Sound ring ⟨issue, depth, target, pending, image, raw :: handled, pieces, reads, offers,
      images, executed⟩ := by
  refine ⟨?_, sound.pieces, sound.reads, sound.offers, sound.waiting, sound.executed,
    sound.window⟩
  intro other membership
  rcases List.mem_cons.mp membership with rfl | old
  · exact .ring same
  · exact sound.handled other old

/-- The descriptor does not fit into the cache. -/
theorem Sound.continue
    (sound : Sound ring ⟨issue, depth, target, pending, image, handled, pieces, reads, offers,
      images, executed⟩) {raw : Bytes} {count remaining slot : Nat}
    (partly : Partly ring issue depth raw count remaining slot) :
    Sound ring ⟨issue, depth, target, pending, image, handled, (raw, remaining, slot) :: pieces,
      reads, offers, images, executed⟩ := by
  refine ⟨sound.handled, ?_, sound.reads, sound.offers, sound.waiting, sound.executed,
    sound.window⟩
  intro piece membership
  rcases List.mem_cons.mp membership with rfl | old
  · exact ⟨count, partly⟩
  · exact sound.pieces piece old

/-- The last block has arrived. -/
theorem Sound.complete {raw : Bytes} {slot : Nat}
    (sound : Sound ring ⟨issue, depth, target, pending, image, handled, (raw, 0, slot) :: pieces,
      reads, offers, images, executed⟩) :
    Sound ring ⟨issue, depth, target, pending, image, raw :: handled, pieces, reads, offers,
      images, executed⟩ := by
  obtain ⟨count, partly⟩ := sound.pieces (raw, 0, slot) (by simp)
  have total := partly.total
  have same : raw = ringImage ring issue count := partly.same
  refine (sound.weaken (List.Subset.refl _) (List.subset_cons_self _ _)
    (List.Subset.refl _)).hand ?_
  rw [same]
  congr 1
  exact total.symm

/-- The next part is read. -/
theorem Sound.read {raw : Bytes} {remaining slot : Nat} (positive : 0 < depth)
    (sound : Sound ring ⟨issue, depth, target, pending, image, handled,
      (raw, remaining, slot) :: pieces, reads, offers, images, executed⟩) :
    Sound ring ⟨issue, depth, target, pending, image, handled, pieces,
      reads ++ [(raw, remaining, slot, min remaining (depth - slot))], offers, images,
      executed⟩ := by
  obtain ⟨count, partly⟩ := sound.pieces (raw, remaining, slot) (by simp)
  have place : slot = (issue + count) % depth := partly.slot
  have inside := Nat.mod_lt (issue + count) positive
  have slim := sound.weaken (List.Subset.refl _) (List.subset_cons_self _ _) (List.Subset.refl _)
  refine ⟨slim.handled, slim.pieces, ?_, slim.offers, slim.waiting, slim.executed, slim.window⟩
  intro read membership
  rcases List.mem_append.mp membership with old | new
  · exact sound.reads read old
  · obtain rfl := List.mem_singleton.mp new
    exact ⟨Nat.min_le_left _ _, by dsimp only; omega, count, partly⟩

/-- A part has arrived. -/
theorem Sound.arrive {raw bytes : Bytes} {remaining slot contiguous : Nat}
    (sound : Sound ring ⟨issue, depth, target, pending, image, handled, pieces,
      (raw, remaining, slot, contiguous) :: reads, offers, images, executed⟩)
    (size : bytes.length = contiguous * wqebbBytes)
    (supplied : ∀ i < contiguous, ∀ j < depth, (issue + j) % depth = slot + i →
      blockAt bytes i = ring (issue + j)) :
    Sound ring ⟨issue, depth, target, pending, image, handled,
      (raw ++ bytes, remaining - contiguous, (slot + contiguous) % depth) :: pieces, reads, offers,
      images, executed⟩ := by
  obtain ⟨within, straight, count, partly⟩ :=
    sound.reads (raw, remaining, slot, contiguous) (by simp)
  exact (sound.weaken (List.Subset.refl _) (List.Subset.refl _)
    (List.subset_cons_self _ _)).continue (partly.extend within straight size supplied)

/-- `HandleSqWqe` is entered. -/
theorem Sound.execute {raw : Bytes}
    (sound : Sound ring ⟨issue, depth, target, pending, image, raw :: handled, pieces, reads,
      offers, images, executed⟩) :
    Sound ring ⟨issue, depth, target, pending, image, handled, pieces, reads, offers, images,
      executed ++ [(issue, raw)]⟩ := by
  have slim := sound.weaken (List.subset_cons_self raw handled) (List.Subset.refl _)
    (List.Subset.refl _)
  refine ⟨slim.handled, slim.pieces, slim.reads, slim.offers, slim.waiting, ?_, slim.window⟩
  intro entry membership
  rcases List.mem_append.mp membership with old | new
  · exact sound.executed entry old
  · obtain rfl := List.mem_singleton.mp new
    exact sound.handled raw (by simp)

/-- `issue` moves when nothing else is on its way. -/
theorem Sound.reserve
    (sound : Sound ring ⟨issue, depth, target, pending, image, [], [], [], offers, images,
      executed⟩) (later : Nat) :
    Sound ring ⟨later, depth, target, pending, image, [], [], [], offers, images, executed⟩ :=
  ⟨by simp, by simp, by simp, sound.offers, sound.waiting, sound.executed, sound.window⟩

theorem Sound.perm {other : List (Bytes × Nat × Nat × Nat)}
    (sound : Sound ring ⟨issue, depth, target, pending, image, handled, pieces, reads, offers,
      images, executed⟩) (same : reads.Perm other) :
    Sound ring ⟨issue, depth, target, pending, image, handled, pieces, other, offers, images,
      executed⟩ :=
  sound.weaken (List.Subset.refl _) (List.Subset.refl _) same.symm.subset

/-- Bytes are written into the window while no image waits. -/
theorem Sound.store
    (sound : Sound ring ⟨issue, depth, target, false, image, handled, pieces, reads, [], images,
      executed⟩) {window : Bytes} (size : window.length = image.length) :
    Sound ring ⟨issue, depth, target, false, window, handled, pieces, reads, [], images,
      executed⟩ :=
  ⟨sound.handled, sound.pieces, sound.reads, by simp, by simp, sound.executed,
    size.trans sound.window⟩

/-- The window is complete. -/
theorem Sound.offer
    (sound : Sound ring ⟨issue, depth, target, false, image, handled, pieces, reads, [], images,
      executed⟩) {window : Bytes} {producer : Nat} (size : window.length = image.length)
    (announced : producerField window = producer % 2 ^ 16) :
    Sound ring ⟨issue, depth, target, true, window, handled, pieces, reads,
      [(producer, window)], images ++ [(producer, window)], executed⟩ := by
  have more : images ⊆ images ++ [(producer, window)] := List.subset_append_left _ _
  refine ⟨fun raw membership => (sound.handled raw membership).mono more, sound.pieces,
    sound.reads, ?_, by simp, fun entry membership => (sound.executed entry membership).mono more,
    size.trans sound.window⟩
  intro offer membership
  obtain rfl := List.mem_singleton.mp membership
  exact ⟨rfl, rfl, by simp, announced⟩

end Desk

/-! ## Lanes as desks -/

def Task.handled : Task → Option Bytes
  | .handleSqWqe _ raw => some raw
  | _ => none

def Task.piece : Task → Option (Bytes × Nat × Nat)
  | .continueSqWqe _ raw remaining nextSlot => some (raw, remaining, nextSlot)
  | _ => none

def Task.offer : Task → Option (Nat × Bytes)
  | .processSq _ producer direct => if direct = [] then none else some (producer, direct)
  | _ => none

def Callback.piece : Callback → Option (Bytes × Nat × Nat × Nat)
  | .continuation _ raw remaining nextSlot contiguous =>
      some (raw, remaining, nextSlot, contiguous)
  | _ => none

def Observation.image : Observation → Option (Nat × Bytes)
  | .direct _ producer window => some (producer, window)
  | _ => none

def Observation.execution : Observation → Option (Nat × Bytes)
  | .executed _ position raw => some (position, raw)
  | _ => none

attribute [simp] Task.handled Task.piece Task.offer Callback.piece Observation.image
  Observation.execution

def Lane.desk (lane : Lane) : Desk where
  issue := lane.pipe.issue
  depth := 2 ^ lane.context.sqShift.val
  target := lane.context.targetProducer
  pending := lane.context.directPending
  image := lane.context.directWqe
  handled := gather Task.handled lane.tasks
  pieces := gather Task.piece lane.tasks
  reads := gather Callback.piece lane.calls
  offers := gather Task.offer lane.tasks
  images := gather Observation.image lane.trace
  executed := gather Observation.execution lane.trace

/-- No image is on its way below urgent code. -/
theorem State.Calm.offers {state : State} (calm : state.Calm) (id : Nat) :
    gather Task.offer (state.lane id).tasks = [] := by
  rw [gather_eq_nil]
  intro task membership
  have quiet := calm task (List.mem_filter.mp membership).1
  cases task with
  | processSq who producer direct => simpa using quiet
  | _ => rfl

/-- Without a fetch nothing is on its way. -/
theorem Lane.unfetched {lane : Lane} (tasks : tally Task.fetching lane.tasks = 0)
    (calls : tally Callback.fetching lane.calls = 0) :
    gather Task.handled lane.tasks = [] ∧ gather Task.piece lane.tasks = [] ∧
      gather Callback.piece lane.calls = [] := by
  have idle : ∀ task ∈ lane.tasks, task.fetching = false := by
    intro task membership
    by_contra busy
    have := tally_pos_of_mem membership (Bool.eq_true_of_not_eq_false busy)
    omega
  have answered : ∀ callback ∈ lane.calls, callback.fetching = false := by
    intro callback membership
    by_contra busy
    have := tally_pos_of_mem membership (Bool.eq_true_of_not_eq_false busy)
    omega
  simp only [gather_eq_nil]
  refine ⟨?_, ?_, ?_⟩
  · intro task membership
    have rests := idle task membership
    cases task <;> simp_all
  · intro task membership
    have rests := idle task membership
    cases task <;> simp_all
  · intro callback membership
    have rests := answered callback membership
    cases callback <;> simp_all

/-- The owner of the fetch is the only one on its way. -/
theorem Lane.Locked.alone {base : State} {id : Nat} {task : Task}
    (locked : ((base.push [task]).lane id).Locked) (own : task.on id = true)
    (taking : task.fetching = true) :
    gather Task.handled (base.lane id).tasks = [] ∧ gather Task.piece (base.lane id).tasks = [] ∧
      gather Callback.piece (base.lane id).calls = [] := by
  have fetch := locked.fetch
  have single := Bool.toNat_le ((base.lane id).pipe.fetching)
  simp only [Lane.gate, State.lane_push, List.filter_cons_of_pos own, List.filter_nil,
    List.cons_append, List.nil_append, tally_cons, taking, Bool.toNat_true] at fetch
  simp only [Lane.pipe] at fetch single
  exact Lane.unfetched (by omega) (by omega)

/-! ## What the guest and the host do -/

/-- Reads of the ring return the blocks the guest has posted at the positions they cover. -/
def Supplied (ring : Nat → Bytes) (id : Nat) (before : State) (event : Event)
    (_after : State) : Prop :=
  match event with
  | .fire index true bytes =>
      match before.outstanding[index]? with
      | some (.prefetch other start count) =>
          other = id → bytes.length = count * wqebbBytes →
            ∀ i < count, blockAt bytes i = ring (start + i)
      | some (.continuation other _ _ nextSlot contiguous) =>
          other = id → bytes.length = contiguous * wqebbBytes →
            ∀ i < contiguous, ∀ j < (before.lane id).context.depth,
              ((before.lane id).pipe.issue + j) % (before.lane id).context.depth =
                nextSlot + i → blockAt bytes i = ring ((before.lane id).pipe.issue + j)
      | _ => True
  | _ => True

/-- While a direct image waits, nothing is written into the window and no call of `ProcessSq`
moves the producer; and a new image is not behind the producer. -/
def Undisturbed (id : Nat) (before : State) (event : Event) : Prop :=
  match event with
  | .directWrite other _ _ => other = id → (before.lane id).context.directPending = false
  | .run =>
      match before.stack with
      | .processSq other producer direct :: _ =>
          other = id →
            if direct = [] then
              (before.lane id).context.directPending = true →
                ahead32 producer (before.lane id).context.targetProducer = false
            else producer = (before.lane id).context.targetProducer ∨
              ahead32 producer (before.lane id).context.targetProducer = true
      | .processSqLoop other producer .check :: _ =>
          other = id → (before.lane id).context.directPending = true →
            ahead32 producer (before.lane id).context.targetProducer = false
      | _ => True
  | _ => True

instance (ring : Nat → Bytes) (id : Nat) (before : State) (event : Event) (after : State) :
    Decidable (Supplied ring id before event after) := by
  unfold Supplied
  rcases event with _ | ⟨index, _ | _, bytes⟩ | _ <;> try infer_instance
  dsimp only
  rcases before.outstanding[index]? with _ | ⟨_ | _⟩ <;> infer_instance

instance (id : Nat) (before : State) (event : Event) : Decidable (Undisturbed id before event) := by
  unfold Undisturbed
  split
  · infer_instance
  · split <;> infer_instance
  · infer_instance

theorem QueueContext.mergeProducer_eq {context : QueueContext} {producer : Nat}
    (behind : ahead32 producer context.targetProducer = false) :
    context.mergeProducer producer = context := by
  simp [mergeProducer, behind]

/-- A direct image that is not behind the producer. -/
theorem QueueContext.accept_image (context : QueueContext) {producer : Nat}
    (size : context.directWqe.length = wqebbBytes)
    (near : producer = context.targetProducer ∨
      ahead32 producer context.targetProducer = true) :
    context.accept producer context.directWqe =
      { context with targetProducer := producer, directPending := true } := by
  unfold accept mergeProducer
  rw [if_pos size]
  split
  next => rfl
  next behind =>
    rcases near with rfl | ahead
    · rfl
    · exact absurd ahead behind

/-- A merge that finds no image waiting. -/
theorem Desk.Sound.mergeProducer {ring : Nat → Bytes} {context : QueueContext} {issue : Nat}
    {handled : List Bytes} {pieces : List (Bytes × Nat × Nat)}
    {reads : List (Bytes × Nat × Nat × Nat)} {offers images executed : List (Nat × Bytes)}
    (sound : Sound ring ⟨issue, 2 ^ context.sqShift.val, context.targetProducer,
      context.directPending, context.directWqe, handled, pieces, reads, offers, images,
      executed⟩) {producer : Nat}
    (still : context.directPending = true → ahead32 producer context.targetProducer = false) :
    Sound ring ⟨issue, 2 ^ (context.mergeProducer producer).sqShift.val,
      (context.mergeProducer producer).targetProducer,
      (context.mergeProducer producer).directPending, (context.mergeProducer producer).directWqe,
      handled, pieces, reads, offers, images, executed⟩ := by
  have shift : (context.mergeProducer producer).sqShift = context.sqShift := by
    unfold QueueContext.mergeProducer
    split <;> rfl
  have pending : (context.mergeProducer producer).directPending = context.directPending := by
    unfold QueueContext.mergeProducer
    split <;> rfl
  have image : (context.mergeProducer producer).directWqe = context.directWqe := by
    unfold QueueContext.mergeProducer
    split <;> rfl
  rw [shift, pending, image]
  refine sound.merge ?_
  intro waits
  rw [QueueContext.mergeProducer_eq (still waits)]

theorem QueueContext.depth_eq (context : QueueContext) :
    context.depth = 2 ^ context.sqShift.val := by
  rw [depth, Nat.shiftLeft_eq, Nat.one_mul]

theorem gather_retired {Beta : Type} {select : Observation → Option Beta}
    (blind : ∀ who request, select (.retired who request) = none) (id : Nat)
    (entries : List SqCompletion) :
    gather select (entries.map fun front => .retired id front.request) = [] := by
  rw [gather_eq_nil]
  intro observation membership
  obtain ⟨front, _, rfl⟩ := List.mem_map.mp membership
  exact blind id front.request

variable {ring : Nat → Bytes}

theorem Ran.desked {config : Config} {base after : State} {id : Nat} {task : Task}
    (ran : Ran config base id task after) (own : task.on id = true) (calm : base.Calm)
    (locked : ((base.push [task]).lane id).Locked)
    (kept : Undisturbed id (base.push [task]) .run)
    (cached : ∀ entry ∈ (base.lane id).pipe.cache, entry.2 = [] ∨ entry.2 = ring entry.1)
    (sound : ((base.push [task]).lane id).desk.Sound ring) : (after.lane id).desk.Sound ring := by
  have quiet := calm.offers id
  unfold Lane.desk at sound ⊢
  cases ran with
  | absent task missing silent =>
      have blank := base.lane_jetty_none id missing
      simp only [State.lane_push, gather_append] at sound
      refine ⟨fun raw membership => sound.handled raw (List.mem_append_right _ membership),
        fun piece membership => sound.pieces piece (List.mem_append_right _ membership),
        sound.reads, by simp [quiet], ?_, sound.executed, sound.window⟩
      simp [blank, Jetty.blank]
  | completeAbsent => simpa using sound
  | processSq producer direct jetty _ existing outcome =>
      have same := base.lane_jetty id existing
      have merging := kept rfl
      simp only [State.lane_push, Lane.context, same] at merging
      by_cases empty : direct = []
      · subst empty
        simp [same] at sound
        have accepted : jetty.context.accept producer [] = jetty.context.mergeProducer producer :=
          rfl
        rw [accepted] at outcome
        have merged := sound.mergeProducer (by simpa using merging)
        cases outcome <;> simpa using merged
      · simp [same, empty, quiet] at sound
        obtain ⟨_, whole, _⟩ := sound.offers (producer, direct) (by simp)
        rw [show direct = jetty.context.directWqe from whole] at sound outcome
        have accepted := sound.accept
        rw [jetty.context.accept_image sound.window (by simpa [empty] using merging)] at outcome
        cases outcome <;> simpa [quiet] using accepted
  | resumeSq jetty _ existing outcome =>
      have same := base.lane_jetty id existing
      have level : jetty.context.accept jetty.context.targetProducer [] = jetty.context :=
        QueueContext.mergeProducer_eq (by simp [ahead32, sub32_self])
      rw [level] at outcome
      cases outcome <;> simpa [same] using sound
  | processSqLoop producer jetty _ existing outcome =>
      have same := base.lane_jetty id existing
      have merging := kept rfl
      simp only [State.lane_push, Lane.context, same] at merging
      simp [same, quiet] at sound
      have merged := sound.mergeProducer merging
      cases outcome with
      | left => simpa [quiet] using sound
      | blocked => simpa [quiet] using merged
      | caughtUp => simpa [quiet] using merged.clear _
      | tooFar => simpa [quiet] using merged
      | direct clear near pending level =>
          rw [pending] at merged
          simpa [quiet] using merged.direct level
      | filling => simpa [quiet] using merged
  | fillSqCache producer targetProducer jetty _ existing outcome =>
      have same := base.lane_jetty id existing
      cases outcome <;> simpa [same] using sound
  | executeSqHead producer targetProducer jetty _ existing outcome =>
      have same := base.lane_jetty id existing
      simp [same] at sound cached
      have arrives : ∀ {head}, jetty.pipe.cache.find jetty.pipe.issue = some head → head ≠ [] →
          head = ring jetty.pipe.issue := fun found arrived =>
        (cached _ _ (Cache.find_mem found)).resolve_left arrived
      cases outcome with
      | handed head rest _ found arrived _ complete =>
          have first := arrives found arrived
          have more : rest = ringImage ring (jetty.pipe.issue + 1) (SqWqe.wqebbCount head - 1) :=
            Cache.blocks_eq_ringImage (by simpa using cached) complete
          have whole : head ++ rest = ringImage ring jetty.pipe.issue
              (SqWqe.wqebbCount (ring jetty.pipe.issue)) := by
            rw [← first, ← Nat.sub_add_cancel (SqWqe.wqebbCount_pos head), ringImage, ← first, more]
          simpa using sound.hand whole
      | oversized head _ found arrived fits _ =>
          have first := arrives found arrived
          have positive := SqWqe.wqebbCount_pos head
          rw [QueueContext.depth_eq] at fits
          have partly : Partly ring jetty.pipe.issue (2 ^ jetty.context.sqShift.val) head 1
              (SqWqe.wqebbCount head - 1) ((jetty.pipe.issue + 1) % 2 ^ jetty.context.sqShift.val) := by
            refine ⟨?_, ?_, by omega, rfl⟩
            · rw [ringImage, ringImage, List.append_nil]
              exact first
            · rw [← first]
              omega
          simpa [QueueContext.depth_eq, Nat.and_two_pow_sub_one_eq_mod] using
            sound.continue partly
      | _ => simpa [same] using sound
  | continueLast raw nextSlot =>
      simp at sound
      simpa using sound.complete
  | continueRead raw remaining nextSlot jetty existing more =>
      have same := base.lane_jetty id existing
      simp [same] at sound
      simpa [same, QueueContext.depth_eq] using sound.read (Nat.two_pow_pos _)
  | handleSqWqe raw jetty _ existing outcome =>
      have same := base.lane_jetty id existing
      obtain ⟨handled, pieces, reads⟩ := locked.alone own rfl
      simp [same, handled, pieces, reads] at sound
      have entered := sound.execute
      cases outcome with
      | failed =>
          simpa [Jetty.fail, Jetty.release, handled, pieces, reads] using entered
      | released => simpa [Jetty.release, handled, pieces, reads] using entered
      | read =>
          simpa [reserveSq, SqPipeline.reserve, handled, pieces, reads] using entered.reserve _
      | prepared =>
          simpa [prepareWrite, reserveSq, SqPipeline.reserve, handled, pieces, reads] using
            entered.reserve _
      | rejected =>
          simpa [rejectSend, reserveSq, SqPipeline.reserve, handled, pieces, reads] using
            entered.reserve _
      | inlined => simpa [same, handled, pieces, reads] using entered
      | reading route observation expected _ _ observed =>
          subst observed
          simpa [same, handled, pieces, reads] using entered
  | drainPreparedWrites jetty _ existing outcome =>
      have same := base.lane_jetty id existing
      cases outcome <;> simpa [same] using sound
  | submitSqPayload raw payload reserved jetty _ existing outcome =>
      have same := base.lane_jetty id existing
      cases outcome with
      | released => simpa [same, Jetty.release] using sound
      | lost => simpa using sound
      | freshSend =>
          obtain ⟨handled, pieces, reads⟩ := locked.alone own rfl
          simp [same, handled, pieces, reads] at sound
          simpa [reserveSq, SqPipeline.reserve, handled, pieces, reads] using sound.reserve _
      | freshWrite =>
          obtain ⟨handled, pieces, reads⟩ := locked.alone own rfl
          simp [same, handled, pieces, reads] at sound
          simpa [reserveSq, SqPipeline.reserve, handled, pieces, reads] using sound.reserve _
      | heldSend => simpa [same] using sound
      | heldWrite => simpa [same] using sound
  | releaseSqFetch jetty existing =>
      have same := base.lane_jetty id existing
      simpa [same, Jetty.release] using sound
  | completeSq request status substatus jetty _ existing outcome =>
      have same := base.lane_jetty id existing
      cases outcome <;> simpa [same] using sound
  | retireSq jetty _ existing outcome =>
      have same := base.lane_jetty id existing
      cases outcome with
      | skipped => simpa [same] using sound
      | entered =>
          unfold retireLoop
          split <;> simpa [same] using sound
  | retireSqLoop jetty _ existing outcome =>
      have same := base.lane_jetty id existing
      cases outcome with
      | stopped => simpa [same] using sound
      | published =>
          unfold publishSq
          split <;> simpa [same] using sound
  | retireSqPipelinedLoop jetty _ existing outcome =>
      have same := base.lane_jetty id existing
      cases outcome with
      | stopped => simpa [same] using sound
      | published =>
          unfold publishSq
          split <;> simpa [same] using sound
  | finishKept entry => simpa using sound
  | finishPopped entry jetty existing =>
      have same := base.lane_jetty id existing
      simpa [same, SqPipeline.pop, -List.map_take,
        @gather_retired _ Observation.image (fun _ _ => rfl),
        @gather_retired _ Observation.execution (fun _ _ => rfl)] using sound
  | finishSqPipelined entry ok jetty _ existing outcome =>
      have same := base.lane_jetty id existing
      simp [same] at sound
      cases outcome with
      | broken => simpa using sound
      | retired =>
          simpa [SqPipeline.retire, @gather_retired _ Observation.image (fun _ _ => rfl),
            @gather_retired _ Observation.execution (fun _ _ => rfl)] using sound

theorem Called.desked {config : Config} {base after : State} {ok : Bool} {bytes : Bytes}
    {id : Nat} {callback : Callback}
    (called : Called config base ok bytes id callback after)
    (delivered : ∀ raw remaining nextSlot contiguous,
      callback = .continuation id raw remaining nextSlot contiguous → ok = true →
      bytes.length = contiguous * wqebbBytes → ∀ i < contiguous,
      ∀ j < (base.lane id).context.depth,
        ((base.lane id).pipe.issue + j) % (base.lane id).context.depth = nextSlot + i →
          blockAt bytes i = ring ((base.lane id).pipe.issue + j))
    (sound : (Lane.desk { base.lane id with calls := callback :: (base.lane id).calls }).Sound
      ring) :
    (after.lane id).desk.Sound ring := by
  unfold Lane.desk at sound ⊢
  cases called with
  | absent callback missing =>
      exact sound.weaken (List.Subset.refl _) (List.Subset.refl _) (by simp)
  | prefetch start count jetty _ existing outcome =>
      have same := base.lane_jetty id existing
      cases outcome <;> simpa [same, SqPipeline.prefetched] using sound
  | continuation raw remaining nextSlot contiguous jetty _ existing outcome =>
      have same := base.lane_jetty id existing
      simp [same] at sound
      cases outcome with
      | failed =>
          simpa [Jetty.fail, Jetty.release] using
            sound.weaken (List.Subset.refl _) (List.Subset.refl _) (List.subset_cons_self _ _)
      | arrived good size =>
          have blocks := delivered raw remaining nextSlot contiguous rfl good size
          simp only [Lane.context, Lane.pipe, same, QueueContext.depth_eq] at blocks
          simpa [same, QueueContext.depth_eq, Nat.and_two_pow_sub_one_eq_mod] using
            sound.arrive size blocks
  | writePayload position expected jetty existing =>
      have same := base.lane_jetty id existing
      simpa [same] using sound
  | sendPayload raw expected jetty _ existing outcome =>
      have same := base.lane_jetty id existing
      simp [same] at sound
      cases outcome with
      | failed => simpa [Jetty.fail, Jetty.release] using sound
      | arrived => simpa [same] using sound
  | sendFailed request requestId bad =>
      split
      · simpa [State.lane] using sound
      · simpa using sound
  | writeSent request requestId good opcode => simpa using sound
  | sendDone request requestId good opcode => simpa using sound
  | cqe entry => split <;> simpa using sound

/-- The announced producer carries the field of the image in its low half. -/
theorem directProducer_field (issue : Nat) (window : Bytes) :
    producerField window =
      directProducer issue (load32 window 0 &&& 0xffff) % 2 ^ 16 := by
  have small : load32 window 0 &&& 0xffff < 2 ^ 16 :=
    Nat.lt_of_le_of_lt Nat.and_le_right (by decide)
  have low : ∀ base : Nat, ((base &&& 0xffff0000) ||| (load32 window 0 &&& 0xffff)) % 2 ^ 16 =
      load32 window 0 &&& 0xffff := by
    intro base
    rw [Nat.or_mod_two_pow, Nat.and_mod_two_pow, Nat.mod_eq_of_lt small]
    simp
  have field := low (issue % 2 ^ 32)
  unfold directProducer producerField
  dsimp only
  split
  next => omega
  next => omega

theorem directWrite_of_step {config : Config} {state after : State} {id offset : Nat}
    {data : Bytes} (taken : step config state (.directWrite id offset data) = some after) :
    after = directWrite state id offset data := by
  simp only [step, environment] at taken
  split at taken
  next =>
    split at taken
    next => simp at taken
    next => exact (Option.some.inj taken).symm
  next => simp at taken

theorem Acts.desked {config : Config} {id : Nat} {state after : State} {event : Event}
    (acts : Acts config id state event after) (taken : step config state event = some after)
    (locked : (state.lane id).Locked) (supplied : Supplied ring id state event after)
    (kept : Undisturbed id state event)
    (cached : ∀ entry ∈ (state.lane id).pipe.cache, entry.2 = [] ∨ entry.2 = ring entry.1)
    (sound : (state.lane id).desk.Sound ring) : (after.lane id).desk.Sound ring := by
  cases acts with
  | task base task _ before own calm ran =>
      subst before
      exact ran.desked own calm locked kept (by simpa using cached) sound
  | callback index ok bytes callback calls base _ own calm before chosen held called =>
      subst before
      refine called.desked ?_ ?_
      · rintro raw remaining nextSlot contiguous rfl rfl size
        have blocks := supplied
        simp only [Supplied, State.holding, chosen] at blocks
        exact blocks trivial size
      · rw [State.lane_holding] at sound
        unfold Lane.desk at sound ⊢
        refine sound.perm (gather_perm ?_)
        have same := held.filter (Callback.on id)
        rwa [List.filter_cons_of_pos own] at same
  | progressed _ _ pending progress earlier later observed calm held owner request silent lane =>
      have blind : gather Observation.image observed = [] ∧
          gather Observation.execution observed = [] := by
        simp only [gather_eq_nil]
        constructor
        · intro observation membership
          obtain ⟨token, address, length, rfl⟩ := silent observation membership
          rfl
        · intro observation membership
          obtain ⟨token, address, length, rfl⟩ := silent observation membership
          rfl
      rw [lane]
      unfold Lane.desk at sound ⊢
      simpa [blind] using sound
  | finished _ _ pending earlier later status calm held lane =>
      rw [lane]
      unfold Lane.desk at sound ⊢
      simpa using sound
  | doorbell producer calm =>
      unfold Lane.desk at sound ⊢
      simpa using sound
  | direct offset data jetty _ calm existing outcome =>
      have same := state.lane_jetty id existing
      have idle := kept rfl
      simp only [Lane.context, same] at idle
      have quiet := calm.offers id
      obtain rfl := directWrite_of_step taken
      unfold Lane.desk at sound ⊢
      simp only [Lane.context, Lane.pipe, same, quiet, idle] at sound
      have written : storeBytes jetty.context.directWqe offset data ≠ [] := by
        have size := storeBytes_length jetty.context.directWqe offset data
        rw [sound.window] at size
        rw [← List.length_pos_iff, size]
        decide
      simp only [directWrite, existing]
      split
      next =>
        simpa [same, Jetty.pipe, quiet, written] using sound.offer (storeBytes_length _ offset data)
          (directProducer_field jetty.pipe.issue _)
      next => simpa [same, Jetty.pipe, quiet, idle] using
          sound.store (storeBytes_length _ offset data)
  | created context jetty calm missing fresh =>
      have fetch := locked.fetch
      simp only [Lane.gate, Lane.pipe, missing, Jetty.blank_pipe, Bool.toNat_false] at fetch
      obtain ⟨handled, pieces, reads⟩ := @Lane.unfetched (state.lane id) (by omega) (by omega)
      have quiet := calm.offers id
      rw [State.lane_setJetty]
      unfold Lane.desk at sound ⊢
      refine ⟨by simp [handled], by simp [pieces], by simp [reads], by simp [quiet], ?_,
        sound.executed, ?_⟩
      · simp [fresh.directPending]
      · simp [fresh.directWqe, wqebbBytes]

/-- Reads return what is posted, and a waiting direct image is left alone. -/
def Careful (ring : Nat → Bytes) (id : Nat) (before : State) (event : Event)
    (after : State) : Prop :=
  Supplied ring id before event after ∧ Undisturbed id before event

instance (ring : Nat → Bytes) (id : Nat) (before : State) (event : Event) (after : State) :
    Decidable (Careful ring id before event after) :=
  inferInstanceAs (Decidable (_ ∧ _))

theorem desk_of_reaches {config : Config} {id : Nat} {state : State}
    (reached : Reaches (step config) (Careful ring id) (State.initial config) state) :
    (state.lane id).desk.Sound ring ∧
      (state.lane id).stock.Sound fun position block => block = ring position := by
  refine lane_of_reaches id (fun lane => lane.desk.Sound ring ∧
    lane.stock.Sound fun position block => block = ring position) reached ⟨?_, ?_⟩ ?_
  · rw [State.initial_lane]
    exact ⟨by simp [Lane.desk], by simp [Lane.desk], by simp [Lane.desk], by simp [Lane.desk],
      by simp [Lane.desk, Jetty.blank], by simp [Lane.desk], rfl⟩
  · exact Stock.initial_sound config id
  · rintro before event after earlier ⟨sound, stocked⟩ acts taken ⟨supplied, kept⟩
    have locked := locked_of_reaches earlier id
    refine ⟨acts.desked taken locked supplied kept stocked.valid sound,
      acts.stocked locked ?_ stocked⟩
    rintro index ok bytes start count rfl chosen rfl size i inside
    simp only [Supplied, chosen] at supplied
    exact supplied trivial size i inside

/-- Every descriptor that is executed at a position is the one the guest has posted there, in
the ring or in the direct window. -/
theorem executed_as_posted {config : Config} {id : Nat} {state : State}
    (reached : Reaches (step config) (Careful ring id) (State.initial config) state)
    {position : Nat} {raw : Bytes} (executed : .executed id position raw ∈ state.trace) :
    raw = ringImage ring position (SqWqe.wqebbCount (ring position)) ∨
      ∃ producer, .direct id producer raw ∈ state.trace ∧ raw.length = wqebbBytes ∧
        producerField raw = (position + 1) % 2 ^ 16 := by
  have entry : (position, raw) ∈ (state.lane id).desk.executed :=
    mem_gather.mpr ⟨_, List.mem_filter.mpr ⟨executed, by simp⟩, rfl⟩
  cases (desk_of_reaches reached).1.executed (position, raw) entry with
  | ring same => exact .inl same
  | direct producer offered size announced =>
      obtain ⟨observation, membership, shape⟩ := mem_gather.mp offered
      obtain ⟨known, own⟩ := List.mem_filter.mp membership
      cases observation <;> simp at shape own
      obtain ⟨rfl, rfl⟩ := shape
      subst own
      exact .inr ⟨_, known, size, announced⟩

/-- A READ that announces the producer `low`. -/
def announcing (low flags remote : Nat) : Bytes :=
  SqWqe.image true low flags 6 1 remote ⟨4, 0, 0x8000⟩

/-- The guest writes an image into the direct window, eight bytes at a time. -/
def directWrites (id : Nat) (image : Bytes) : List Event :=
  (List.range 8).map fun i => .directWrite id (8 * i) ((image.drop (8 * i)).take 8)

/-- A direct image is executed at the position it announces. -/
theorem direct_image_executed :
    ∃ state, Reaches (step (.small false)) (Careful (fun _ => []) 9)
        (State.initial (.small false)) state ∧
      .executed 9 0 (announcing 1 0 0x8000) ∈ state.trace ∧
      (announcing 1 0 0x8000 = ringImage (fun _ => []) 0 (SqWqe.wqebbCount []) ∨
        ∃ producer, .direct 9 producer (announcing 1 0 0x8000) ∈ state.trace ∧
          (announcing 1 0 0x8000).length = wqebbBytes ∧
          producerField (announcing 1 0 0x8000) = (0 + 1) % 2 ^ 16) := by
  let events : List Event := opening 9 3 ++ directWrites 9 (announcing 1 0 0x8000) ++ runs 3
  obtain ⟨state, reached, seen⟩ := exists_of_execute
    (show (execute (step (.small false)) (Careful (fun _ => []) 9) events
      (State.initial (.small false))).map
        (fun state => decide (.executed 9 0 (announcing 1 0 0x8000) ∈ state.trace)) =
          some true by decide +kernel)
  have executed := of_decide_eq_true seen
  exact ⟨state, reached, executed, executed_as_posted reached executed⟩

/-- A fenced READ, the image that is also written directly, and a third READ. -/
def fencedRing : Nat → Bytes
  | 0 => announcing 0 8 0x8000
  | 1 => announcing 2 0 0x9000
  | _ => announcing 3 0 0xa000

/-- The direct image waits behind a fenced READ while a doorbell posts another descriptor: it
is executed in the place of that one. -/
theorem waiting_image_executed_late :
    ¬ ∀ (ring : Nat → Bytes) (config : Config) (id : Nat) (state : State) (position : Nat)
      (raw : Bytes),
      Reaches (step config) (Supplied ring id) (State.initial config) state →
      .executed id position raw ∈ state.trace →
      raw = ringImage ring position (SqWqe.wqebbCount (ring position)) ∨
        ∃ producer, .direct id producer raw ∈ state.trace ∧ raw.length = wqebbBytes ∧
          producerField raw = (position + 1) % 2 ^ 16 := by
  intro posted
  let events : List Event := opening 9 3 ++ [.doorbell 9 1] ++ runs 7 ++
    [.fire 0 true (fencedRing 0)] ++ runs 10 ++ directWrites 9 (announcing 2 0 0x9000) ++ runs 3 ++
    [.doorbell 9 3] ++ runs 3 ++ [.receive { operation := .rmaError, requestId := 1 }] ++
    runs 13 ++ [.fire 1 true (fencedRing 1 ++ fencedRing 2)] ++ runs 11
  obtain ⟨state, reached, seen⟩ := exists_of_execute
    (show (execute (step (.small false)) (Supplied fencedRing 9) events
      (State.initial (.small false))).map
        (fun state => decide (.executed 9 2 (announcing 2 0 0x9000) ∈ state.trace)) =
          some true by decide +kernel)
  rcases posted fencedRing _ 9 state 2 _ reached (of_decide_eq_true seen) with
    same | ⟨_, _, _, announced⟩
  · revert same
    decide +kernel
  · revert announced
    decide +kernel

end Udma.Sq
