import Udma.Native.Delivery

/-!
# Segments of a WQE

The transport cuts a WRITE or READ into segments and reports each of them to
`UbNetFabric`, which files it under the low 16 bits of its sequence number.  When
the segment completes, the fabric looks it up there and writes the reply for the
source, which recognises duplicates by the same 16 bits.
-/

namespace Udma.Native

open Udma.Abi Udma.Collections
open Udma.Sq (Reply PendingRma Placed)

/-- `UB_MTU_BYTE`. -/
def mtuBytes : Nat := 4096

structure NativeSegment where
  offset : Nat
  bytes : Nat
  deriving DecidableEq, Repr

abbrev SegmentMap := List (UInt16 × NativeSegment)

/-- `std::map::emplace`: a key that is there already stays as it is. -/
def emplace (segments : SegmentMap) (key : UInt16) (segment : NativeSegment) : SegmentMap :=
  if segments.any (fun entry => entry.1 == key) then segments else segments ++ [(key, segment)]

structure NativeTask where
  read : Bool
  requestId : Nat
  transferLength : Nat
  nextOffset : Nat := 0
  segments : SegmentMap := []

namespace NativeTask

/-- `OnNativeSegmentSent`; an exception is no result. -/
def segmentSent (task : NativeTask) (taSsn : UInt32) (carrierBytes : Nat) : Option NativeTask :=
  if task.transferLength ≤ task.nextOffset then none
  else
    let remaining := task.transferLength - task.nextOffset
    let logicalBytes := if task.read then min mtuBytes remaining else carrierBytes
    if logicalBytes = 0 ∨ remaining < logicalBytes then none
    else
      some { task with
        segments := emplace task.segments taSsn.toUInt16 ⟨task.nextOffset, logicalBytes⟩
        nextOffset := task.nextOffset + logicalBytes }

/-- The segments of a WQE, numbered from `start` on. -/
def segmentsSent (task : NativeTask) (start : UInt32) : List Nat → Option NativeTask
  | [] => some task
  | carrierBytes :: rest =>
      match task.segmentSent start carrierBytes with
      | none => none
      | some next => next.segmentsSent (start + 1) rest

/-- The frame `OnNativeSegmentComplete` queues for an entry; `memory` holds what the target
read. -/
def replyFor (task : NativeTask) (memory : Nat → UInt8) (entry : UInt16 × NativeSegment) :
    Reply where
  operation := if task.read then .readResponse else .writeAck
  requestId := task.requestId
  taSsn := entry.1.toNat
  transactionOffset := entry.2.offset
  transferLength := entry.2.bytes
  bytes :=
    if task.read then (List.range entry.2.bytes).map fun index => memory (entry.2.offset + index)
    else []

/-- `OnNativeSegmentComplete`. -/
def segmentComplete (task : NativeTask) (memory : Nat → UInt8) (taSsn : UInt32) : Option Reply :=
  (task.segments.find? fun entry => entry.1 == taSsn.toUInt16).map (task.replyFor memory)

/-- The replies to all segments. -/
def replies (task : NativeTask) (memory : Nat → UInt8) (start : UInt32) (count : Nat) :
    List Reply :=
  (List.range count).filterMap fun index => task.segmentComplete memory (start + .ofNat index)

end NativeTask

/-- How the transport cuts a transfer: a READ request is carried by one segment for each MTU,
a WRITE by segments of at most an MTU. -/
def Cut (read : Bool) (length : Nat) (carriers : List Nat) : Prop :=
  if read then carriers.length = (length + (mtuBytes - 1)) / mtuBytes
  else (∀ carrier ∈ carriers, 0 < carrier ∧ carrier ≤ mtuBytes) ∧ carriers.sum = length

/-- Consecutive segments. -/
def consecutive : (offset : Nat) → (sizes : List Nat) → List NativeSegment
  | _, [] => []
  | offset, size :: rest => ⟨offset, size⟩ :: consecutive (offset + size) rest

/-- One entry for each of `count` segments, which make up the transfer. -/
structure Partitions (count length : Nat) (segments : SegmentMap) : Prop where
  one : segments.length = count
  whole : ∃ sizes, (∀ size ∈ sizes, 0 < size ∧ size ≤ mtuBytes) ∧ sizes.sum = length ∧
    segments.map Prod.snd = consecutive 0 sizes

/-- Each reply arrives once, and each host write of a READ ends well, in some order. -/
def Delivers (read : Bool) (replies : List Reply) (arrivals : List Arrival) : Prop :=
  if read then Schedule [] arrivals ∧ (repliesIn arrivals).Perm replies
  else ∃ order : List Reply, order.Perm replies ∧ arrivals = order.map .reply

/-! ## Sizes -/

/-- The sizes the fabric gives the segments. -/
def logicalSizes (read : Bool) : (length : Nat) → (carriers : List Nat) → List Nat
  | _, [] => []
  | length, carrier :: rest =>
      let size := if read then min mtuBytes length else carrier
      size :: logicalSizes read (length - size) rest

theorem logicalSizes_length (read : Bool) (length : Nat) (carriers : List Nat) :
    (logicalSizes read length carriers).length = carriers.length := by
  induction carriers generalizing length with
  | nil => rfl
  | cons carrier rest inductionHypothesis => simp [logicalSizes, inductionHypothesis]

theorem Cut.sizes {read : Bool} {length : Nat} {carriers : List Nat}
    (cut : Cut read length carriers) :
    (∀ size ∈ logicalSizes read length carriers, 0 < size ∧ size ≤ mtuBytes) ∧
      (logicalSizes read length carriers).sum = length := by
  induction carriers generalizing length with
  | nil =>
      refine ⟨by simp [logicalSizes], ?_⟩
      cases read with
      | false => simpa [Cut, logicalSizes] using cut.2
      | true =>
          simp only [Cut, if_true, List.length_nil, mtuBytes] at cut
          simp only [logicalSizes, List.sum_nil]
          omega
  | cons carrier rest inductionHypothesis =>
      cases read with
      | false =>
          obtain ⟨bounds, sum⟩ := cut
          rw [List.sum_cons] at sum
          obtain ⟨later, total⟩ := @inductionHypothesis (length - carrier)
            ⟨fun other known => bounds other (by simp [known]), by omega⟩
          refine ⟨?_, ?_⟩
          · exact List.forall_mem_cons.mpr ⟨bounds carrier (by simp), later⟩
          · simp only [logicalSizes, Bool.false_eq_true, if_false, List.sum_cons]
            omega
      | true =>
          simp only [Cut, if_true, List.length_cons, mtuBytes] at cut
          have some : 0 < length := by omega
          obtain ⟨later, total⟩ := @inductionHypothesis (length - min mtuBytes length) (by
            simp only [Cut, if_true, mtuBytes]
            omega)
          refine ⟨?_, ?_⟩
          · refine List.forall_mem_cons.mpr ⟨?_, later⟩
            simp only [if_true, mtuBytes]
            omega
          · simp only [logicalSizes, if_true, List.sum_cons]
            omega

/-! ## The map of segments -/

/-- The entries under which consecutive segments are filed. -/
def filed (start : UInt32) : (offset : Nat) → (sizes : List Nat) → SegmentMap → SegmentMap
  | _, [], segments => segments
  | offset, size :: rest, segments =>
      filed (start + 1) (offset + size) rest (emplace segments start.toUInt16 ⟨offset, size⟩)

theorem segmentsSent_eq {task : NativeTask} {start : UInt32} {carriers : List Nat}
    (positive : ∀ size ∈ logicalSizes task.read (task.transferLength - task.nextOffset) carriers,
      0 < size)
    (total : task.nextOffset +
      (logicalSizes task.read (task.transferLength - task.nextOffset) carriers).sum =
        task.transferLength) :
    task.segmentsSent start carriers =
      some { task with
        nextOffset := task.transferLength
        segments := filed start task.nextOffset
          (logicalSizes task.read (task.transferLength - task.nextOffset) carriers)
          task.segments } := by
  induction carriers generalizing task start with
  | nil =>
      simp only [logicalSizes, List.sum_nil, Nat.add_zero] at total
      simp only [NativeTask.segmentsSent, filed, logicalSizes]
      cases task
      dsimp only at total ⊢
      rw [total]
  | cons carrier rest inductionHypothesis =>
      let size := if task.read then min mtuBytes (task.transferLength - task.nextOffset) else carrier
      let next : NativeTask := { task with
        segments := emplace task.segments start.toUInt16 ⟨task.nextOffset, size⟩
        nextOffset := task.nextOffset + size }
      have sizes : logicalSizes task.read (task.transferLength - task.nextOffset)
          (carrier :: rest) = size :: logicalSizes task.read
            (task.transferLength - (task.nextOffset + size)) rest := by
        rw [← Nat.sub_sub]
        rfl
      rw [sizes] at positive total ⊢
      rw [List.sum_cons] at total
      have first : 0 < size := positive size (by simp)
      have sent : task.segmentSent start carrier = some next := by
        have short : ¬ task.transferLength ≤ task.nextOffset := by omega
        have valid : ¬ (size = 0 ∨ task.transferLength - task.nextOffset < size) := by omega
        rw [NativeTask.segmentSent, if_neg short]
        exact if_neg valid
      have later := @inductionHypothesis next (start + 1)
        (fun other known => positive other (List.mem_cons_of_mem _ known))
        (show task.nextOffset + size + _ = _ by rw [Nat.add_assoc]; exact total)
      rw [NativeTask.segmentsSent, sent]
      exact later

/-- Filing keeps the keys distinct. -/
theorem emplace_nodup {segments : SegmentMap} (distinct : (segments.map Prod.fst).Nodup)
    (key : UInt16) (segment : NativeSegment) :
    ((emplace segments key segment).map Prod.fst).Nodup := by
  unfold emplace
  split
  next => exact distinct
  next fresh =>
    rw [List.map_append, List.nodup_append]
    refine ⟨distinct, by simp, ?_⟩
    rintro one old _ new rfl
    obtain ⟨entry, known, rfl⟩ := List.mem_map.mp old
    have same : entry.1 = key := by simpa using new
    exact fresh (List.any_eq_true.mpr ⟨entry, known, by simp [same]⟩)

theorem filed_nodup {start : UInt32} {offset : Nat} {sizes : List Nat} {segments : SegmentMap}
    (distinct : (segments.map Prod.fst).Nodup) :
    ((filed start offset sizes segments).map Prod.fst).Nodup := by
  induction sizes generalizing start offset segments with
  | nil => exact distinct
  | cons size rest inductionHypothesis => exact inductionHypothesis (emplace_nodup distinct ..)

/-- There are no more entries than 16-bit numbers. -/
theorem length_le_of_nodup {segments : SegmentMap} (distinct : (segments.map Prod.fst).Nodup) :
    segments.length ≤ 2 ^ 16 := by
  have numbers : ((segments.map Prod.fst).map UInt16.toNat).Nodup :=
    distinct.map fun one two same => UInt16.toNat_inj.mp same
  have inside : (segments.map Prod.fst).map UInt16.toNat ⊆ List.range (2 ^ 16) := by
    intro number membership
    obtain ⟨key, _, rfl⟩ := List.mem_map.mp membership
    exact List.mem_range.mpr key.toNat_lt
  have bound := (List.subperm_of_subset numbers inside).length_le
  simpa using bound

/-- The entries of consecutive segments, when none is in the way of another. -/
def numbered (start : UInt32) : (offset : Nat) → (sizes : List Nat) → SegmentMap
  | _, [] => []
  | offset, size :: rest =>
      (start.toUInt16, ⟨offset, size⟩) :: numbered (start + 1) (offset + size) rest

theorem numbered_snd (start : UInt32) (offset : Nat) (sizes : List Nat) :
    (numbered start offset sizes).map Prod.snd = consecutive offset sizes := by
  induction sizes generalizing start offset with
  | nil => rfl
  | cons size rest inductionHypothesis => simp [numbered, consecutive, inductionHypothesis]

theorem numbered_fst (start : UInt32) (offset : Nat) (sizes : List Nat) :
    (numbered start offset sizes).map Prod.fst =
      (List.range sizes.length).map fun index => (start + .ofNat index).toUInt16 := by
  induction sizes generalizing start offset with
  | nil => rfl
  | cons size rest inductionHypothesis =>
      rw [numbered, List.map_cons, inductionHypothesis, List.length_cons,
        List.range_succ_eq_map, List.map_cons, List.map_map]
      congr 1
      · simp
      · apply List.map_congr_left
        intro index _
        simp only [Function.comp_apply]
        congr 1
        rw [UInt32.add_assoc]
        congr 1
        rw [UInt32.add_comm, Nat.succ_eq_add_one, UInt32.ofNat_add]
        rfl

/-- Up to 2 ^ 16 segments have distinct keys. -/
theorem numbered_nodup (start : UInt32) (offset : Nat) {sizes : List Nat}
    (few : sizes.length ≤ 2 ^ 16) : ((numbered start offset sizes).map Prod.fst).Nodup := by
  rw [numbered_fst]
  refine List.Nodup.map_on ?_ List.nodup_range
  intro one known two listed same
  have small : one < 2 ^ 16 := Nat.lt_of_lt_of_le (List.mem_range.mp known) few
  have little : two < 2 ^ 16 := Nat.lt_of_lt_of_le (List.mem_range.mp listed) few
  have numbers := congrArg UInt16.toNat same
  simp only [UInt32.toNat_toUInt16, UInt32.toNat_add, UInt32.toNat_ofNat'] at numbers
  omega

theorem filed_eq {start : UInt32} {offset : Nat} {sizes : List Nat} {segments : SegmentMap}
    (distinct : ((segments ++ numbered start offset sizes).map Prod.fst).Nodup) :
    filed start offset sizes segments = segments ++ numbered start offset sizes := by
  induction sizes generalizing start offset segments with
  | nil => simp [filed, numbered]
  | cons size rest inductionHypothesis =>
      have fresh : ¬ segments.any (fun entry => entry.1 == start.toUInt16) = true := by
        intro taken
        obtain ⟨entry, known, same⟩ := List.any_eq_true.mp taken
        rw [List.map_append] at distinct
        exact (List.nodup_append.mp distinct).2.2 entry.1 (List.mem_map_of_mem known)
          start.toUInt16 (by simp [numbered]) (by simpa using same)
      have shape : segments ++ numbered start offset (size :: rest) =
          (segments ++ [(start.toUInt16, ⟨offset, size⟩)]) ++
            numbered (start + 1) (offset + size) rest := by
        simp [numbered]
      rw [filed, emplace, if_neg fresh, shape]
      exact inductionHypothesis (shape ▸ distinct)

/-! ## The replies -/

theorem consecutive_bounds {offset : Nat} {sizes : List Nat} {segment : NativeSegment}
    (positive : ∀ size ∈ sizes, 0 < size) (membership : segment ∈ consecutive offset sizes) :
    offset ≤ segment.offset ∧ 0 < segment.bytes ∧
      segment.offset + segment.bytes ≤ offset + sizes.sum := by
  induction sizes generalizing offset with
  | nil => simp [consecutive] at membership
  | cons size rest inductionHypothesis =>
      rw [List.sum_cons]
      rcases List.mem_cons.mp membership with rfl | later
      · exact ⟨Nat.le_refl _, positive size (by simp), by dsimp only; omega⟩
      · have := inductionHypothesis (fun other known => positive other (by simp [known])) later
        omega

theorem consecutive_ordered {offset : Nat} {sizes : List Nat}
    (positive : ∀ size ∈ sizes, 0 < size) :
    (consecutive offset sizes).Pairwise fun one two => one.offset + one.bytes ≤ two.offset := by
  induction sizes generalizing offset with
  | nil => exact .nil
  | cons size rest inductionHypothesis =>
      have later : ∀ size ∈ rest, 0 < size := fun other known => positive other (by simp [known])
      refine List.pairwise_cons.mpr ⟨?_, inductionHypothesis later⟩
      intro segment membership
      exact (consecutive_bounds later membership).1

theorem consecutive_sum (offset : Nat) (sizes : List Nat) :
    ((consecutive offset sizes).map NativeSegment.bytes).sum = sizes.sum := by
  induction sizes generalizing offset with
  | nil => rfl
  | cons size rest inductionHypothesis => simp [consecutive, inductionHypothesis]

/-- Each key finds its own entry. -/
theorem find_own {segments : SegmentMap} (distinct : (segments.map Prod.fst).Nodup)
    {entry : UInt16 × NativeSegment} (known : entry ∈ segments) :
    (segments.find? fun other => other.1 == entry.1) = some entry := by
  cases found : segments.find? fun other => other.1 == entry.1 with
  | none => exact absurd (List.find?_eq_none.mp found entry known) (by simp)
  | some other =>
      have same : other.1 = entry.1 := by simpa using List.find?_some found
      rw [List.inj_on_of_nodup_map distinct (List.mem_of_find?_eq_some found) known same]

section Replies

variable {read : Bool} {requestId length : Nat} {start : UInt32} {sizes : List Nat}

/-- The task after all its segments have been sent. -/
def sentTask (read : Bool) (requestId length : Nat) (start : UInt32) (sizes : List Nat) :
    NativeTask where
  read := read
  requestId := requestId
  transferLength := length
  nextOffset := length
  segments := filed start 0 sizes []

theorem sentTask_segments (few : sizes.length ≤ 2 ^ 16) :
    (sentTask read requestId length start sizes).segments = numbered start 0 sizes := by
  rw [sentTask, filed_eq, List.nil_append]
  simpa using numbered_nodup start 0 few

theorem replies_eq (few : sizes.length ≤ 2 ^ 16) (memory : Nat → UInt8) :
    (sentTask read requestId length start sizes).replies memory start sizes.length =
      (numbered start 0 sizes).map
        ((sentTask read requestId length start sizes).replyFor memory) := by
  have distinct := numbered_nodup start 0 few
  unfold NativeTask.replies NativeTask.segmentComplete
  rw [sentTask_segments few]
  have keys := numbered_fst start 0 sizes
  calc (List.range sizes.length).filterMap (fun index =>
        ((numbered start 0 sizes).find? fun entry =>
          entry.1 == (start + .ofNat index).toUInt16).map _)
      = ((List.range sizes.length).map fun index => (start + .ofNat index).toUInt16).filterMap
          (fun key => ((numbered start 0 sizes).find? fun entry => entry.1 == key).map
            ((sentTask read requestId length start sizes).replyFor memory)) := by
        rw [List.filterMap_map]
        rfl
    _ = (numbered start 0 sizes).filterMap (fun entry =>
          ((numbered start 0 sizes).find? fun other => other.1 == entry.1).map
            ((sentTask read requestId length start sizes).replyFor memory)) := by
        rw [← keys, List.filterMap_map]
        rfl
    _ = (numbered start 0 sizes).filterMap (fun entry =>
          some ((sentTask read requestId length start sizes).replyFor memory entry)) := by
        apply List.filterMap_congr
        intro entry known
        rw [find_own distinct known]
        rfl
    _ = _ := congrFun List.filterMap_eq_map' _

theorem replies_set (few : sizes.length ≤ 2 ^ 16) (positive : ∀ size ∈ sizes, 0 < size)
    (total : sizes.sum = length) (memory : Nat → UInt8) :
    Replies requestId (if read then .readResponse else .writeAck) length
        ((sentTask read requestId length start sizes).replies memory start sizes.length) ∧
      lengths ((sentTask read requestId length start sizes).replies memory start
        sizes.length) = length := by
  have segment : ∀ entry ∈ numbered start 0 sizes, entry.2 ∈ consecutive 0 sizes := by
    intro entry known
    rw [← numbered_snd start]
    exact List.mem_map_of_mem known
  rw [replies_eq few]
  refine ⟨⟨?_, ?_, ?_, ?_, ?_, ?_, ?_⟩, ?_⟩
  · intro reply membership
    obtain ⟨entry, known, rfl⟩ := List.mem_map.mp membership
    rfl
  · intro reply membership
    obtain ⟨entry, known, rfl⟩ := List.mem_map.mp membership
    rfl
  · intro reply membership
    obtain ⟨entry, known, rfl⟩ := List.mem_map.mp membership
    exact (consecutive_bounds positive (segment entry known)).2.1
  · intro reply membership
    obtain ⟨entry, known, rfl⟩ := List.mem_map.mp membership
    have inside := (consecutive_bounds positive (segment entry known)).2.2
    simp only [NativeTask.replyFor]
    omega
  · intro kind reply membership
    obtain ⟨entry, known, rfl⟩ := List.mem_map.mp membership
    cases read with
    | false => simp at kind
    | true => simp [NativeTask.replyFor, sentTask]
  · rw [List.map_map]
    have numbers : (((numbered start 0 sizes).map Prod.fst).map UInt16.toNat).Nodup :=
      (numbered_nodup start 0 few).map fun one two same => UInt16.toNat_inj.mp same
    rw [List.map_map] at numbers
    exact numbers
  · rw [List.pairwise_map]
    have ordered : (numbered start 0 sizes).Pairwise fun one two =>
        one.2.offset + one.2.bytes ≤ two.2.offset := by
      have snd := numbered_snd start 0 sizes
      have pieces := @consecutive_ordered 0 sizes positive
      rw [← snd, List.pairwise_map] at pieces
      exact pieces
    exact ordered.imp fun before => .inl before
  · have bytes : ((numbered start 0 sizes).map
        ((sentTask read requestId length start sizes).replyFor memory)).map Reply.transferLength =
        (consecutive 0 sizes).map NativeSegment.bytes := by
      rw [← numbered_snd start, List.map_map, List.map_map]
      rfl
    rw [lengths, bytes, consecutive_sum, total]

end Replies

/-! ## Whole transfers -/

/-- A request that the model has sent and that nothing has answered. -/
structure Requested (read : Bool) (length number : Nat) (pending : PendingRma)
    (state : Sq.State) : Prop where
  numbered : state.Numbered
  found : state.findPending number = some pending
  untouched : Untouched pending
  idle : state.responses number = []
  opcode : pending.request.opcode = if read then 6 else 3
  bytes : pending.request.byteCount = length

/-- The transfer is filed without loss, and whatever the order of its replies, it completes with
status 0. -/
def SegmentedTransfer (read : Bool) (length : Nat) (carriers : List Nat) (start : UInt32)
    (memory : Nat → UInt8) (number : Nat) (pending : PendingRma) (state : Sq.State) : Prop :=
  ∃ task, NativeTask.segmentsSent
      { read := read, requestId := number, transferLength := length } start carriers =
        some task ∧
    Partitions carriers.length length task.segments ∧
    ∀ arrivals, Delivers read (task.replies memory start carriers.length) arrivals →
      Completed number pending (arrivals.foldl arrive state)

section Transfer

variable {read : Bool} {length number : Nat} {pending : PendingRma} {state : Sq.State}
  {carriers : List Nat} {start : UInt32}

theorem segmentsSent_cut (cut : Cut read length carriers) :
    NativeTask.segmentsSent { read := read, requestId := number, transferLength := length } start
        carriers =
      some (sentTask read number length start (logicalSizes read length carriers)) := by
  obtain ⟨bounds, total⟩ := cut.sizes
  exact @segmentsSent_eq { read := read, requestId := number, transferLength := length } start
    carriers (fun size known => (bounds size known).1)
    (show 0 + _ = length by rw [Nat.zero_add]; exact total)

/-- More than 2 ^ 16 segments do not have an entry each. -/
theorem few_of_partitions {sizes : List Nat} {count : Nat}
    (parts : Partitions count length (sentTask read number length start sizes).segments) :
    count ≤ 2 ^ 16 := by
  rw [← parts.one]
  exact length_le_of_nodup (filed_nodup (by simp))

theorem partitions_of_few (cut : Cut read length carriers) (few : carriers.length ≤ 2 ^ 16) :
    Partitions carriers.length length
      (sentTask read number length start (logicalSizes read length carriers)).segments := by
  obtain ⟨bounds, total⟩ := cut.sizes
  have sizes := logicalSizes_length read length carriers
  rw [sentTask_segments (by omega)]
  refine ⟨?_, _, bounds, total, numbered_snd start 0 _⟩
  have entries := congrArg List.length (numbered_snd start 0 (logicalSizes read length carriers))
  have keys := congrArg List.length (numbered_fst start 0 (logicalSizes read length carriers))
  simp only [List.length_map, List.length_range] at keys
  omega

/-- Every order of the replies completes the request. -/
theorem delivered_completes (requested : Requested read length number pending state)
    (positive : 0 < length) {replies : List Reply}
    (set : Replies number (if read then .readResponse else .writeAck) length replies)
    (total : lengths replies = length) (addressed : read = true → Addressed pending)
    {arrivals : List Arrival} (delivers : Delivers read replies arrivals) :
    Completed number pending (arrivals.foldl arrive state) := by
  have untouched := requested.untouched
  have placed : Placed pending.responseRanges pending.completedTassns pending.request.byteCount
      [] := by
    rw [untouched.responseRanges, untouched.completedTassns]
    exact .nil
  have same : SameRequest pending pending := ⟨rfl, rfl, rfl⟩
  have some : replies ≠ [] := by
    rintro rfl
    simp [lengths] at total
    omega
  cases read with
  | false =>
      obtain ⟨order, permuted, rfl⟩ := delivers
      have at_ : WriteAt number pending [] state :=
        ⟨requested.numbered, pending, requested.found, same, placed, untouched.completedBytes⟩
      refine at_.completes requested.opcode ?_ ?_ ?_
      · rintro rfl
        exact some permuted.nil_eq.symm
      · rw [requested.bytes, List.nil_append]
        exact set.perm permuted.symm
      · rw [requested.bytes, List.nil_append, lengths_perm permuted]
        exact total
  | true =>
      obtain ⟨schedule, permuted⟩ := delivers
      have at_ : ReadAt number pending [] [] state :=
        ⟨requested.numbered, List.nil_subperm, pending, requested.found, same, placed,
          untouched.acceptedBytes, untouched.completedBytes, untouched.responseDma,
          untouched.failed⟩
      refine at_.completes schedule requested.opcode (addressed rfl) ?_ (by simp) ?_ ?_
      · rintro rfl
        exact some permuted.nil_eq.symm
      · rw [requested.bytes, List.nil_append]
        exact set.perm permuted.symm
      · rw [requested.bytes, List.nil_append, lengths_perm permuted]
        exact total

/-- The responses one after the other, each stored at once. -/
def inTurn (replies : List Reply) : List Arrival :=
  replies.flatMap fun reply => [.reply reply, .stored reply]

theorem inTurn_delivers (replies : List Reply) : Delivers true replies (inTurn replies) := by
  induction replies with
  | nil => exact ⟨.done, .nil⟩
  | cons reply rest inductionHypothesis =>
      obtain ⟨schedule, permuted⟩ := inductionHypothesis
      exact ⟨.reply reply (.stored reply (.refl _) schedule), .cons _ permuted⟩

/-- Responses to a READ that the host cannot address change nothing. -/
theorem inTurn_unaddressed (requested : Requested true length number pending state)
    (unaddressed : ¬ Addressed pending) {replies : List Reply}
    (set : ∀ reply ∈ replies, reply.requestId = number ∧ reply.operation = .readResponse) :
    (inTurn replies).foldl arrive state = state := by
  induction replies with
  | nil => rfl
  | cons reply rest inductionHypothesis =>
      obtain ⟨own, kind⟩ := set reply (by simp)
      have ignored : Sq.receive state reply = state := by
        refine Sq.receive_rejected ?_ (by simp [kind])
        intro other known
        rw [own, requested.found, Option.mem_some_iff] at known
        subst known
        have far : 2 ^ 64 - 1 - pending.localAddress < pending.request.byteCount - 1 := by
          unfold Addressed at unaddressed
          omega
        simp only [PendingRma.admits, kind, decide_eq_true far, Bool.not_true, Bool.and_false,
          Bool.false_and]
      have unissued : storeCallback reply ∉ state.outstanding := by
        intro issued
        have live : (reply.taSsn, reply.transferLength) ∈ state.responses number :=
          mem_gather.mpr ⟨storeCallback reply, issued, by
            simp [storeCallback, Sq.Callback.responseTo, own]⟩
        simp [requested.idle] at live
      have still : arrive (arrive state (.reply reply)) (.stored reply) = state := by
        simp [arrive, ignored, unissued]
      have shape : inTurn (reply :: rest) = .reply reply :: .stored reply :: inTurn rest := rfl
      rw [shape, List.foldl_cons, List.foldl_cons, still]
      exact inductionHypothesis fun other known => set other (by simp [known])

theorem segmented_transfer_iff (positive : 0 < length) (cut : Cut read length carriers)
    (start : UInt32) (memory : Nat → UInt8)
    (requested : Requested read length number pending state) :
    SegmentedTransfer read length carriers start memory number pending state ↔
      carriers.length ≤ 2 ^ 16 ∧ (read = true → Addressed pending) := by
  obtain ⟨bounds, total⟩ := cut.sizes
  have sizes := logicalSizes_length read length carriers
  have some : ∀ size ∈ logicalSizes read length carriers, 0 < size :=
    fun size known => (bounds size known).1
  unfold SegmentedTransfer
  rw [segmentsSent_cut cut]
  constructor
  · rintro ⟨task, sent, parts, completes⟩
    obtain rfl := Option.some.inj sent
    have few : carriers.length ≤ 2 ^ 16 := few_of_partitions parts
    refine ⟨few, ?_⟩
    rintro rfl
    by_contra unaddressed
    have set := (@replies_set true number length start _ (by omega) some total memory).1
    rw [sizes] at set
    have ended := completes _ (inTurn_delivers _)
    rw [inTurn_unaddressed requested unaddressed
      fun reply known => ⟨set.requestId reply known, set.operation reply known⟩] at ended
    have gone := ended.1
    simp [requested.found] at gone
  · rintro ⟨few, addressed⟩
    refine ⟨_, rfl, partitions_of_few cut few, ?_⟩
    intro arrivals delivers
    obtain ⟨set, whole⟩ := @replies_set read number length start _ (by omega) some total memory
    rw [sizes] at set whole
    exact delivered_completes requested positive set whole addressed delivers

end Transfer

/-- The record of a request for `length` bytes at address 0x8000. -/
def freshPending (opcode length : Nat) : PendingRma where
  requestId := 1
  jettyId := 9
  request :=
    { position := 0, ordered := false, wqebbs := 1, completedIndex := 0, opcode := opcode
      byteCount := length, immediate := 0, completion := true }
  localToken := 1
  localAddress := 0x8000

def requestedState (opcode length : Nat) : Sq.State :=
  { Sq.State.initial (.small false) with pendingRma := [freshPending opcode length] }

theorem requestedState_requested (read : Bool) (length : Nat) :
    Requested read length 1 (freshPending (if read then 6 else 3) length)
      (requestedState (if read then 6 else 3) length) where
  numbered := List.nodup_singleton _
  found := by simp [Sq.State.findPending, requestedState, freshPending]
  untouched := ⟨rfl, rfl, rfl, rfl, rfl, rfl⟩
  idle := rfl
  opcode := rfl
  bytes := rfl

/-- A WRITE of 5000 bytes in two segments whose numbers pass 2 ^ 16. -/
theorem two_segments_complete :
    SegmentedTransfer false 5000 [4096, 904] 0xffff (fun _ => 0) 1 (freshPending 3 5000)
      (requestedState 3 5000) := by
  have cut : Cut false 5000 [4096, 904] := by
    constructor
    · decide
    · decide
  refine (segmented_transfer_iff (by decide) cut 0xffff (fun _ => 0)
    (requestedState_requested false 5000)).mpr ⟨by decide, ?_⟩
  intro read
  cases read

/-- A READ of 2 ^ 28 + 1 bytes has a segment more than there are numbers. -/
theorem large_read_loses_segment :
    ¬ ∀ (read : Bool) (length : Nat) (carriers : List Nat) (start : UInt32)
        (memory : Nat → UInt8) (number : Nat) (pending : PendingRma) (state : Sq.State),
      0 < length → length < 2 ^ 32 → Cut read length carriers →
      Requested read length number pending state →
      SegmentedTransfer read length carriers start memory number pending state := by
  intro completes
  have cut : Cut true (2 ^ 28 + 1) (List.replicate 65537 1) := List.length_replicate
  obtain ⟨task, sent, parts, -⟩ := completes true (2 ^ 28 + 1) (List.replicate 65537 1) 0
    (fun _ => 0) 1 _ _ (by decide) (by decide) cut (requestedState_requested true (2 ^ 28 + 1))
  rw [segmentsSent_cut cut] at sent
  obtain rfl := Option.some.inj sent
  have few := few_of_partitions parts
  rw [List.length_replicate] at few
  exact absurd few (by decide)

end Udma.Native
