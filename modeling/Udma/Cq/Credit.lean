import Udma.Cq.Events

/-!
# The credit of a CEQ

A CEQ that is not created anew while it is live never has more published entries
than it has places, an entry is written only to a place that the consumer has
left, and the consumer passes an entry only after its write was acknowledged.

A create command checks that the CEQ is idle before it reads the context, and
installs the context after that.  An event that is queued in between breaks the
exclusion.
-/

namespace Udma.Cq

open Udma.Abi Udma.Arithmetic Udma.Collections Udma.Transition

variable {config : Config} {state before after : State} {event : Event}

/-! ## What a step does to a CEQ -/

/-- A full ring is far from the 24 bits of a doorbell. -/
theorem Ceq.depth_le (ceq : Ceq) : ceq.depth ≤ 2 ^ 23 := by
  unfold Ceq.depth
  rw [Nat.one_shiftLeft]
  have bound := ceq.shift.isLt
  exact Nat.pow_le_pow_right (by decide) (by omega)

theorem decodeCeq_fresh {tag : Nat} {context : Bytes} {ceq : Ceq}
    (decoded : decodeCeq tag context = some ceq) :
    ceq.producer = 0 ∧ ceq.consumer = 0 ∧ ceq.consumerPending = false := by
  unfold decodeCeq at decoded
  simp only at decoded
  split at decoded
  next =>
    split at decoded
    next => simp at decoded
    next =>
      obtain rfl := Option.some.inj decoded
      exact ⟨rfl, rfl, rfl⟩
  next => simp at decoded

/-- A CEQ with an entry that is being written, or not.  A consumer that is parked waits for
exactly that entry. -/
structure Ceq.Sound (ceq : Ceq) (reserved : Bool) : Prop where
  producer_lt : ceq.producer < 2 ^ 32
  consumer_lt : ceq.consumer < 2 ^ 32
  room : ceq.lag + reserved.toNat ≤ ceq.depth
  parked : ceq.consumerPending = true →
    reserved = true ∧ ceq.pendingConsumer = (ceq.producer + 1) % 2 ^ 32

/-- What may happen to a CEQ and to the entry being written; `result` is the answer to the
write of that entry. -/
inductive Ceq.Step (result : Option Bool) : Ceq → Bool → Ceq → Bool → Prop where
  | same (ceq : Ceq) (reserved : Bool) : Step result ceq reserved ceq reserved
  | started (ceq : Ceq) : ceq.creditFault = false → ceq.lag < ceq.depth →
      Step result ceq false ceq true
  | consumed (ceq : Ceq) (reserved : Bool) (delta : Nat) : delta ≤ ceq.lag →
      Step result ceq reserved { ceq with consumer := (ceq.consumer + delta) % 2 ^ 32 } reserved
  | parked (ceq : Ceq) :
      Step result ceq true
        { ceq with pendingConsumer := (ceq.producer + 1) % 2 ^ 32, consumerPending := true } true
  | advanced (ceq : Ceq) : result = some true → Step result ceq true ceq.advance false
  | refused (ceq : Ceq) : result = some false → Step result ceq true ceq.refuse false

theorem Ceq.Step.congr {result : Option Bool} {ceq next : Ceq} {before after first last : Bool}
    (moved : Ceq.Step result ceq before next after) (start : first = before)
    (stop : last = after) : Ceq.Step result ceq first next last := by
  subst start stop
  exact moved

/-- The producer moves with an acknowledgement only. -/
theorem Ceq.Step.producer_cases {result : Option Bool} {ceq next : Ceq} {before after : Bool}
    (moved : Ceq.Step result ceq before next after) :
    next.producer = ceq.producer ∨
      result = some true ∧ next.producer = (ceq.producer + 1) % 2 ^ 32 := by
  cases moved with
  | advanced acknowledged => exact .inr ⟨acknowledged, rfl⟩
  | _ => exact .inl rfl

namespace Ceq.Sound

variable {ceq next : Ceq} {reserved : Bool}

theorem fresh {tag : Nat} {context : Bytes} (decoded : decodeCeq tag context = some ceq) :
    ceq.Sound false := by
  obtain ⟨producer, consumer, idle⟩ := decodeCeq_fresh decoded
  constructor
  · simp [producer]
  · simp [consumer]
  · simp [Ceq.lag, producer, consumer, sub32]
  · simp [idle]

/-- A doorbell that is accepted consumes published entries, or parks the consumer behind the
entry that is being written. -/
theorem credited (sound : ceq.Sound reserved) {delta : Nat}
    (credit : delta ≤ (ceq.lag + reserved.toNat) % 2 ^ 32) (result : Option Bool) :
    Ceq.Step result ceq reserved (ceq.credited delta) reserved := by
  have room := sound.room
  have small := ceq.depth_le
  have within : delta ≤ ceq.lag + reserved.toNat := by omega
  unfold Ceq.credited
  split
  next beyond =>
    have single := Bool.toNat_le reserved
    obtain rfl : reserved = true := Bool.toNat_eq_one.mp (by omega)
    have next : (ceq.consumer + delta) % 2 ^ 32 = (ceq.producer + 1) % 2 ^ 32 := by
      have last : delta = ceq.lag + 1 := by omega
      have meets := add_sub32_mod ceq.consumer ceq.producer
      unfold Ceq.lag at last
      omega
    rw [next]
    exact .parked ceq
  next => exact .consumed ceq reserved delta (by omega)

/-- Published entries after the consumer has moved. -/
theorem lag_consumed {delta : Nat} (within : delta ≤ ceq.lag) :
    Ceq.lag { ceq with consumer := (ceq.consumer + delta) % 2 ^ 32 } = ceq.lag - delta := by
  change sub32 ceq.producer ((ceq.consumer + delta) % 2 ^ 32) = ceq.lag - delta
  rw [sub32_mod_base]
  exact sub32_advance ceq.producer ceq.consumer delta within

theorem lag_advance (sound : ceq.Sound reserved) :
    ceq.advance.lag = if ceq.consumerPending then 0 else ceq.lag + 1 := by
  have room := sound.room
  have small := ceq.depth_le
  change sub32 ((ceq.producer + 1) % 2 ^ 32)
    (if ceq.consumerPending then ceq.pendingConsumer else ceq.consumer) = _
  split
  next waits =>
    rw [(sound.parked waits).2]
    exact sub32_self _
  next =>
    refine sub32_succ ceq.producer ceq.consumer ?_
    change ceq.lag + 1 < 2 ^ 32
    omega

theorem step {result : Option Bool} {later : Bool} (sound : ceq.Sound reserved)
    (moved : Ceq.Step result ceq reserved next later) : next.Sound later := by
  have room := sound.room
  have wrapped : ∀ value, value % 2 ^ 32 < 2 ^ 32 := fun value => Nat.mod_lt _ (by decide)
  cases moved with
  | same => exact sound
  | started _ credit =>
      refine ⟨sound.producer_lt, sound.consumer_lt, ?_, ?_⟩
      · exact credit
      · intro waits
        exact absurd (sound.parked waits).1 (by simp)
  | consumed _ delta within =>
      refine ⟨sound.producer_lt, wrapped _, ?_, sound.parked⟩
      rw [lag_consumed within]
      change ceq.lag - delta + reserved.toNat ≤ ceq.depth
      omega
  | parked => exact ⟨sound.producer_lt, sound.consumer_lt, room, fun _ => ⟨rfl, rfl⟩⟩
  | advanced =>
      refine ⟨wrapped _, ?_, ?_, by simp [Ceq.advance]⟩
      · unfold Ceq.advance
        split
        next waits =>
          rw [(sound.parked waits).2]
          exact wrapped _
        next => exact sound.consumer_lt
      · rw [sound.lag_advance]
        change _ + 0 ≤ ceq.depth
        change ceq.lag + 1 ≤ ceq.depth at room
        split <;> omega
  | refused =>
      refine ⟨sound.producer_lt, sound.consumer_lt, ?_, by simp [Ceq.refuse]⟩
      change ceq.lag + 0 ≤ ceq.depth
      omega

/-- The consumer moves forward, and not beyond the producer. -/
theorem forward {result : Option Bool} {later : Bool} (sound : ceq.Sound reserved)
    (moved : Ceq.Step result ceq reserved next later) :
    sub32 next.consumer ceq.consumer + next.lag = sub32 next.producer ceq.consumer := by
  have room := sound.room
  have small := ceq.depth_le
  cases moved with
  | same | started | parked =>
      rw [sub32_self, Nat.zero_add]
      rfl
  | consumed _ delta within =>
      rw [lag_consumed within]
      change sub32 ((ceq.consumer + delta) % 2 ^ 32) ceq.consumer + _ = ceq.lag
      rw [sub32_add_mod _ _ (by omega)]
      omega
  | advanced =>
      rw [sound.lag_advance]
      change sub32 (if ceq.consumerPending then ceq.pendingConsumer else ceq.consumer) _ + _ =
        sub32 ((ceq.producer + 1) % 2 ^ 32) ceq.consumer
      split
      next waits => rw [(sound.parked waits).2, Nat.add_zero]
      next =>
        rw [sub32_self, Nat.zero_add]
        refine (sub32_succ ceq.producer ceq.consumer ?_).symm
        change ceq.lag + 1 < 2 ^ 32
        omega
  | refused =>
      change sub32 ceq.consumer ceq.consumer + ceq.lag = ceq.lag
      rw [sub32_self, Nat.zero_add]

end Ceq.Sound

/-- What it means that an event brings the context of CEQ `tag`. -/
theorem installsCeq_spec {tag : Nat} (installs : before.installsCeq event = some tag) :
    ∃ index bytes command ceq, event = .fire index true bytes ∧
      before.outstanding[index]? = some (.contextRead command) ∧
      command.opcode = .createCeq ∧ command.tag = tag ∧ bytes.length = 64 ∧
      decodeCeq tag bytes = some ceq := by
  unfold State.installsCeq at installs
  split at installs
  next index bytes =>
    split at installs
    next command found =>
      split at installs
      next right =>
        obtain ⟨isCreate, size, decodes⟩ := right
        obtain rfl := Option.some.inj installs
        obtain ⟨ceq, decoded⟩ := Option.isSome_iff_exists.mp decodes
        exact ⟨index, bytes, command, ceq, rfl, found, isCreate, rfl, size, decoded⟩
      next => simp at installs
    next => simp at installs
  next => simp at installs

/-! ## The credit of one CEQ -/

/-- The answer to the write of an entry of CEQ `id`. -/
def Notice.result (notice : Notice) (id : Nat) : Option Bool :=
  match notice.answer with
  | some (.ceqeWritten _ ceqId _, ok) => if ceqId = id then some ok else none
  | _ => none

/-- Installing the CEQ only where there is none. -/
def NotRecreated (id : Nat) (before : State) (event : Event) (_after : State) : Prop :=
  before.installsCeq event = some id → before.ceqs.lookup id = none

instance (id : Nat) (before : State) (event : Event) (after : State) :
    Decidable (NotRecreated id before event after) :=
  inferInstanceAs (Decidable (_ → _))

def Desk.Sound (desk : Desk) (id : Nat) : Prop :=
  ∀ ceq, desk.ceqs.lookup id = some ceq → ceq.Sound (desk.reserved id)

section Credit

variable {desk next : Desk} {notice : Notice} {id : Nat} {ceq : Ceq}

/-- An entry is being written only for a CEQ that exists. -/
theorem Desk.Watched.unreserved (watched : desk.Watched) (absent : desk.ceqs.lookup id = none) :
    desk.reserved id = false := by
  by_contra taken
  simp only [Desk.reserved, Bool.not_eq_false, Bool.and_eq_true, beq_iff_eq] at taken
  obtain ⟨⟨_, writing⟩, active⟩ := taken
  obtain ⟨ticket, vector, held⟩ := watched.written writing
  have present := (watched.active ticket _ vector held).2.2
  rw [active, absent] at present
  simp at present

/-- The entry whose write is answered is the one that is being written. -/
theorem Desk.Watched.reserved_of_write (watched : desk.Watched) {ticket ceqId vector : Nat}
    (held : .ceqeWritten ticket ceqId vector ∈ desk.calls) (id : Nat) :
    desk.reserved id = (ceqId == id) := by
  obtain ⟨writing, active, _⟩ := watched.active ticket ceqId vector held
  simp [Desk.reserved, watched.busy_of_write held, writing, active]

/-- The CEQ after a step is the one before after one of its steps, or a new one. -/
theorem Desk.Move.ceq_step (watched : desk.Watched) (sound : desk.Sound id)
    (moved : desk.Move notice next)
    (notRecreated : notice.installs = some id → desk.ceqs.lookup id = none)
    (found : next.ceqs.lookup id = some ceq) :
    (∃ old, desk.ceqs.lookup id = some old ∧
        Ceq.Step (notice.result id) old (desk.reserved id) ceq (next.reserved id)) ∨
      desk.ceqs.lookup id = none ∧ ceq.producer = 0 ∧ ceq.consumer = 0 ∧
        ceq.Sound (next.reserved id) := by
  cases moved with
  | kept => exact .inl ⟨ceq, found, .same ceq _⟩
  | enqueued event own => exact .inl ⟨ceq, found, .same ceq _⟩
  | dropped event earlier later shape absent => exact .inl ⟨ceq, found, .same ceq _⟩
  | started event target earlier later idle shape present faultless credit =>
      have unreserved : desk.reserved id = false := by simp [Desk.reserved, idle]
      refine .inl ⟨ceq, found, ?_⟩
      by_cases same : event.ceqId = id
      · subst same
        obtain rfl := Option.some.inj (present.symm.trans found)
        exact (Ceq.Step.started target faultless credit).congr unreserved (by simp [Desk.reserved])
      · exact (Ceq.Step.same ceq false).congr unreserved (by simp [Desk.reserved, same])
  | acknowledged ticket ceqId vector earlier later target answer shape present =>
      have held : Callback.ceqeWritten ticket ceqId vector ∈ desk.calls := by simp [shape]
      have reserved := watched.reserved_of_write held id
      by_cases same : ceqId = id
      · subst same
        rw [AList.lookup_insert, Option.some.injEq] at found
        subst found
        rw [beq_self_eq_true] at reserved
        have result : notice.result ceqId = some true := by simp [Notice.result, answer]
        exact .inl ⟨target, present,
          (Ceq.Step.advanced target result).congr reserved (by simp [Desk.reserved])⟩
      · rw [AList.lookup_insert_ne (Ne.symm same)] at found
        rw [beq_false_of_ne same] at reserved
        exact .inl ⟨ceq, found, (Ceq.Step.same ceq false).congr reserved (by simp [Desk.reserved])⟩
  | refused ticket ceqId vector earlier later target answer shape present =>
      have held : Callback.ceqeWritten ticket ceqId vector ∈ desk.calls := by simp [shape]
      have reserved := watched.reserved_of_write held id
      by_cases same : ceqId = id
      · subst same
        rw [AList.lookup_insert, Option.some.injEq] at found
        subst found
        rw [beq_self_eq_true] at reserved
        have result : notice.result ceqId = some false := by simp [Notice.result, answer]
        exact .inl ⟨target, present,
          (Ceq.Step.refused target result).congr reserved (by simp [Desk.reserved])⟩
      · rw [AList.lookup_insert_ne (Ne.symm same)] at found
        rw [beq_false_of_ne same] at reserved
        exact .inl ⟨ceq, found, (Ceq.Step.same ceq false).congr reserved (by simp [Desk.reserved])⟩
  | missing ticket ceqId vector earlier later shape absent =>
      have present := (watched.active ticket ceqId vector (by simp [shape])).2.2
      simp [absent] at present
  | raised ticket earlier later shape =>
      have unreserved : desk.reserved id = false := by
        simp [Desk.reserved, watched.quiet_of_raise shape]
      exact .inl ⟨ceq, found, (Ceq.Step.same ceq false).congr unreserved (by simp [Desk.reserved])⟩
  | rung target delta old present faultless credit =>
      by_cases same : target = id
      · subst same
        rw [AList.lookup_insert, Option.some.injEq] at found
        subst found
        exact .inl ⟨old, present, (sound old present).credited credit _⟩
      · rw [AList.lookup_insert_ne (Ne.symm same)] at found
        exact .inl ⟨ceq, found, .same ceq _⟩
  | asked tag free => exact .inl ⟨ceq, found, .same ceq _⟩
  | installed tag context fresh earlier later installs shape decoded =>
      by_cases same : tag = id
      · subst same
        have absent := notRecreated installs
        have unreserved := watched.unreserved absent
        rw [AList.lookup_insert, Option.some.injEq] at found
        subst found
        obtain ⟨producer, consumer, _⟩ := decodeCeq_fresh decoded
        refine .inr ⟨absent, producer, consumer, ?_⟩
        change fresh.Sound (desk.reserved tag)
        rw [unreserved]
        exact .fresh decoded
      · rw [AList.lookup_insert_ne (Ne.symm same)] at found
        exact .inl ⟨ceq, found, .same ceq _⟩
  | declined tag earlier later shape => exact .inl ⟨ceq, found, .same ceq _⟩
  | erased tag free =>
      by_cases same : tag = id
      · subst same
        rw [AList.lookup_erase] at found
        simp at found
      · rw [AList.lookup_erase_ne (Ne.symm same)] at found
        exact .inl ⟨ceq, found, .same ceq _⟩

end Credit

theorem Desk.Sound.move {desk next : Desk} {notice : Notice} {id : Nat} (sound : desk.Sound id)
    (watched : desk.Watched) (moved : desk.Move notice next)
    (notRecreated : notice.installs = some id → desk.ceqs.lookup id = none) : next.Sound id := by
  intro ceq found
  rcases moved.ceq_step watched sound notRecreated found with
    ⟨old, present, stepped⟩ | ⟨_, _, _, fresh⟩
  · exact (sound old present).step stepped
  · exact fresh

theorem sound_of_reaches {id : Nat}
    (reached : Reaches (step config) (NotRecreated id) .initial state) : state.desk.Sound id := by
  refine reached.induction_on (fun state => state.desk.Sound id) ?_ ?_
  · intro ceq present
    simp [State.initial, AList.lookup_empty] at present
  · intro before event after earlier sound taken notRecreated
    exact sound.move (watched_of_reaches earlier) (step_desk taken) notRecreated

/-- An entry is written at the producer of a CEQ with a free place. -/
theorem Desk.Move.writes_cases {desk next : Desk} {notice : Notice}
    (moved : desk.Move notice next) :
    next.writes = desk.writes ∨
      ∃ id ceq, desk.ceqs.lookup id = some ceq ∧ ceq.lag < ceq.depth ∧
        next.writes = desk.writes ++
          [⟨id, ceq.producer, ceq.iova + ceq.producer % ceq.depth * 64⟩] := by
  cases moved with
  | started event ceq earlier later idle shape present faultless credit =>
      refine .inr ⟨event.ceqId, ceq, present, credit, ?_⟩
      have slot : ceq.producer &&& (ceq.depth - 1) = ceq.producer % ceq.depth := by
        unfold Ceq.depth
        rw [Nat.one_shiftLeft, Nat.and_two_pow_sub_one_eq_mod]
      rw [slot]
  | _ => exact .inl rfl

/-- The test of `HandleCeqConsumerMmio` for a doorbell that is not counted as rejected. -/
def State.acceptsDoorbell (state : State) (value : Nat) : Bool :=
  (state.ceqs.lookup (value &&& 0xff)).any fun ceq =>
    value &&& 0xff000000fffcff00 = 0 && !ceq.creditFault &&
      sub32 ((value >>> 32) &&& 0xffffff) ceq.consumer &&& 0xffffff ≤
        (ceq.lag + (state.desk.reserved (value &&& 0xff)).toNat) % 2 ^ 32

theorem ceqDoorbell_of_rejected {value : Nat} (rejected : state.acceptsDoorbell value = false) :
    ceqDoorbell state value = state := by
  unfold ceqDoorbell
  simp only
  split
  next => rfl
  next ceq present =>
    split
    next => rfl
    next accepted =>
      push Not at accepted
      obtain ⟨bits, faultless, credit⟩ := accepted
      have accepts : state.acceptsDoorbell value = true := by
        rw [State.acceptsDoorbell, present, Option.any_some, Bool.and_eq_true, Bool.and_eq_true]
        exact ⟨⟨decide_eq_true bits, by simpa using faultless⟩, decide_eq_true credit⟩
      rw [rejected] at accepts
      simp at accepts

/-- The credit of CEQ `id` is safe.  It never has more published entries than places, and a
consumer that is parked waits for the entry that is being written; an entry is written to
a place that the consumer has left; the CEQ makes one of its steps, by which the consumer
moves forward and not beyond the producer, and the producer moves with an acknowledgement
only; and a doorbell that is rejected changes nothing. -/
theorem ceq_credit_safe {id : Nat}
    (reached : Reaches (step config) (NotRecreated id) .initial before)
    (taken : step config before event = some after)
    (notRecreated : NotRecreated id before event after) :
    (∀ ceq, before.ceqs.lookup id = some ceq → ceq.lag ≤ ceq.depth ∧
      (ceq.consumerPending = true → before.desk.reserved id = true ∧
        ceq.pendingConsumer = (ceq.producer + 1) % 2 ^ 32)) ∧
    (ceqeWritesOf after.trace = ceqeWritesOf before.trace ∨
      ∃ ceqId ceq, before.ceqs.lookup ceqId = some ceq ∧ ceq.lag < ceq.depth ∧
        ceqeWritesOf after.trace = ceqeWritesOf before.trace ++
          [⟨ceqId, ceq.producer, ceq.iova + ceq.producer % ceq.depth * 64⟩]) ∧
    (∀ next, after.ceqs.lookup id = some next →
      (∃ ceq, before.ceqs.lookup id = some ceq ∧
        Ceq.Step ((before.notice config event).result id) ceq (before.desk.reserved id) next
          (after.desk.reserved id) ∧
        sub32 next.consumer ceq.consumer + next.lag = sub32 next.producer ceq.consumer ∧
        (next.producer = ceq.producer ∨
          (before.notice config event).result id = some true ∧
            next.producer = (ceq.producer + 1) % 2 ^ 32)) ∨
      before.ceqs.lookup id = none ∧ next.producer = 0 ∧ next.consumer = 0) ∧
    ∀ value, before.acceptsDoorbell value = false → ceqDoorbell before value = before := by
  have watched := watched_of_reaches reached
  have sound := sound_of_reaches reached
  have moved := step_desk taken
  refine ⟨?_, moved.writes_cases, ?_, fun value rejected => ceqDoorbell_of_rejected rejected⟩
  · intro ceq present
    have own := sound ceq present
    exact ⟨Nat.le_of_add_right_le own.room, own.parked⟩
  · intro next found
    rcases moved.ceq_step watched sound notRecreated found with
      ⟨ceq, present, stepped⟩ | ⟨absent, producer, consumer, _⟩
    · exact .inl ⟨ceq, present, stepped, (sound ceq present).forward stepped, stepped.producer_cases⟩
    · exact .inr ⟨absent, producer, consumer⟩

/-- The entry of the first event is in CEQ 2, its acknowledgement is not back, and the guest
has consumed it. -/
def consumedEarly : List Event :=
  created ++ [.writeCqe 7 .small] ++ pass 7 ++
    [.fire 0 true (store32 0), .run, .fire 0 true []] ++ runs 10 ++ pass 8 ++
    [.ceqDoorbell (2 ||| 2 <<< 16 ||| 1 <<< 32)] ++ runs 1

/-- The parked consumer is applied with the acknowledgement. -/
theorem early_credit_applied :
    ∃ before after ceq next,
      Reaches (step (.small false)) (NotRecreated 2) .initial before ∧
      step (.small false) before (.fire 0 true []) = some after ∧
      before.ceqs.lookup 2 = some ceq ∧ ceq.producer = 0 ∧ ceq.consumer = 0 ∧
      ceq.pendingConsumer = 1 ∧ after.ceqs.lookup 2 = some next ∧ next.consumer = 1 ∧
      sub32 next.consumer ceq.consumer + next.lag = sub32 next.producer ceq.consumer := by
  obtain ⟨before, reached, seen⟩ := exists_of_execute
    (show (execute (step (.small false)) (NotRecreated 2) consumedEarly .initial).map
        (fun before => (before.ceqs.lookup 2).any (fun ceq => ceq.producer == 0 &&
            ceq.consumer == 0 && ceq.pendingConsumer == 1) &&
          (step (.small false) before (.fire 0 true [])).any fun after =>
            (after.ceqs.lookup 2).any fun next => next.consumer == 1) =
      some true by decide +kernel)
  simp only [Bool.and_eq_true, beq_iff_eq, Option.any_eq_true] at seen
  obtain ⟨⟨ceq, present, ⟨producer, consumer⟩, parked⟩, after, taken, next, found, applied⟩ := seen
  have absent : NotRecreated 2 before (.fire 0 true []) after := by
    intro installs
    obtain ⟨_, _, _, _, same, _, _, _, size, _⟩ := installsCeq_spec installs
    obtain ⟨_, _, rfl⟩ := Event.fire.inj same
    simp at size
  refine ⟨before, after, ceq, next, reached, taken, present, producer, consumer, parked, found,
    applied, ?_⟩
  rcases (ceq_credit_safe reached taken absent).2.2.1 next found with
    ⟨old, same, _, forward, _⟩ | ⟨none, _⟩
  · obtain rfl := Option.some.inj (present.symm.trans same)
    exact forward
  · rw [present] at none
    simp at none

/-! ## Exclusive creation -/

/-- No event of a CEQ is pending while its context is being read. -/
def Desk.Exclusive (desk : Desk) : Prop := ∀ tag ∈ desk.creating, desk.Free tag

/-- No event is queued for a CEQ whose context is being read. -/
def Unreported (config : Config) (before : State) (event : Event) (_after : State) : Prop :=
  ∀ ceqId ∈ (before.enqueues config event).toList, ceqId ∉ before.desk.creating

instance (config : Config) (before : State) (event : Event) (after : State) :
    Decidable (Unreported config before event after) :=
  inferInstanceAs (Decidable (∀ ceqId ∈ (before.enqueues config event).toList,
    ceqId ∉ before.desk.creating))

theorem Desk.Exclusive.move {desk next : Desk} {notice : Notice} (exclusive : desk.Exclusive)
    (moved : desk.Move notice next)
    (unreported : ∀ ceqId, notice.enqueues = some ceqId → ceqId ∉ desk.creating) :
    next.Exclusive := by
  cases moved with
  | kept => exact exclusive
  | enqueued event own =>
      intro tag membership
      obtain ⟨unqueued, idle⟩ := exclusive tag membership
      refine ⟨?_, idle⟩
      intro other queued
      rcases List.mem_append.mp queued with old | new
      · exact unqueued other old
      · rw [List.mem_singleton.mp new]
        rintro rfl
        exact unreported event.ceqId own membership
  | dropped event earlier later shape absent =>
      intro tag membership
      obtain ⟨unqueued, idle⟩ := exclusive tag membership
      refine ⟨fun other queued => unqueued other ?_, idle⟩
      rw [shape]
      exact List.mem_append.mpr ((List.mem_append.mp queued).imp_right (List.mem_cons_of_mem _))
  | started event ceq earlier later idle shape present sound credit =>
      intro tag membership
      obtain ⟨unqueued, _⟩ := exclusive tag membership
      constructor
      · intro other queued
        refine unqueued other ?_
        rw [shape]
        exact List.mem_append.mpr ((List.mem_append.mp queued).imp_right (List.mem_cons_of_mem _))
      · rintro ⟨_, active⟩
        exact unqueued event (by simp [shape]) active
  | acknowledged ticket ceqId vector earlier later ceq answer shape present => exact exclusive
  | refused ticket ceqId vector earlier later ceq answer shape present =>
      intro tag membership
      exact ⟨(exclusive tag membership).1, by simp⟩
  | missing ticket ceqId vector earlier later shape absent => exact exclusive
  | raised ticket earlier later shape =>
      intro tag membership
      exact ⟨(exclusive tag membership).1, by simp⟩
  | rung id delta ceq present sound credit => exact exclusive
  | asked tag free =>
      intro other membership
      rcases List.mem_append.mp membership with old | new
      · exact exclusive other old
      · rw [List.mem_singleton.mp new]
        exact free
  | installed tag context ceq earlier later installs shape decoded =>
      intro other membership
      refine exclusive other ?_
      rw [shape]
      exact List.mem_append.mpr ((List.mem_append.mp membership).imp_right (List.mem_cons_of_mem _))
  | declined tag earlier later shape =>
      intro other membership
      refine exclusive other ?_
      rw [shape]
      exact List.mem_append.mpr ((List.mem_append.mp membership).imp_right (List.mem_cons_of_mem _))
  | erased tag free => exact exclusive

theorem exclusive_of_reaches (reached : Reaches (step config) (Unreported config) .initial state) :
    state.desk.Exclusive := by
  refine reached.induction_on (fun state => state.desk.Exclusive) ?_ ?_
  · intro tag membership
    simp [State.initial] at membership
  · intro before event after _ exclusive taken unreported
    refine exclusive.move (step_desk taken) ?_
    intro ceqId own
    exact unreported ceqId (by simpa [State.notice] using own)

/-- The step that brings the context installs it, and does nothing else to the event
engine. -/
theorem installs_step {tag : Nat} (taken : step config before event = some after)
    (installs : before.installsCeq event = some tag) :
    ∃ ceq, after.ceqs.lookup tag = some ceq ∧ ceq.producer = 0 ∧ ceq.consumer = 0 ∧
      tag ∈ before.desk.creating ∧ after.desk.events = before.desk.events ∧
      after.desk.busy = before.desk.busy ∧ after.desk.active = before.desk.active ∧
      after.desk.calls = before.desk.calls := by
  obtain ⟨index, bytes, command, ceq, rfl, found, isCreate, rfl, size, decoded⟩ :=
    installsCeq_spec installs
  have acted : environment config before (.fire index true bytes) = some after := by
    rcases step_kinds taken with ⟨_, _, other, _⟩ | ⟨expired, rest, shape, _, rfl⟩ | acted
    · simp at other
    · simp [step, shape, State.atBoundary] at taken
    · exact acted
  simp only [environment, found, Option.some.injEq] at acted
  have fresh := decodeCeq_fresh decoded
  have membership : command.tag ∈ before.desk.creating :=
    List.mem_filterMap.mpr ⟨.contextRead command, List.mem_of_getElem? found,
      by simp [Callback.createdCeq, isCreate]⟩
  have calls : (before.outstanding.eraseIdx index).filter Callback.event =
      before.outstanding.filter Callback.event := filter_eraseIdx found rfl
  subst acted
  refine ⟨ceq, ?_, fresh.1, fresh.2.1, membership, ?_⟩
  · simp [runCallback, contextRead, applyUbaseMailbox, finishUbaseDescriptor, isCreate, decoded,
      size, Opcode.contextBytes, AList.lookup_insert]
  · simp [runCallback, contextRead, applyUbaseMailbox, finishUbaseDescriptor, isCreate, decoded,
      size, Opcode.contextBytes, calls, Callback.event]

/-- When a CEQ is installed, no event of it is queued, being written or awaiting its
interrupt. -/
theorem ceq_created_exclusively {tag : Nat}
    (reached : Reaches (step config) (Unreported config) .initial before)
    (taken : step config before event = some after)
    (installs : before.installsCeq event = some tag) :
    (∃ ceq, after.ceqs.lookup tag = some ceq ∧ ceq.producer = 0 ∧ ceq.consumer = 0) ∧
      (∀ event ∈ after.completionEvents, event.ceqId ≠ tag) ∧
      ¬ (after.completionEventBusy = true ∧ after.activeCeqId = tag) ∧
      ∀ ticket vector, .ceqeWritten ticket tag vector ∉ after.outstanding := by
  obtain ⟨ceq, present, producer, consumer, creating, events, busy, active, calls⟩ :=
    installs_step taken installs
  obtain ⟨unqueued, idle⟩ := exclusive_of_reaches reached tag creating
  rw [← events] at unqueued
  rw [← busy, ← active] at idle
  refine ⟨⟨ceq, present, producer, consumer⟩, unqueued, idle, ?_⟩
  intro ticket vector held
  have own : Callback.ceqeWritten ticket tag vector ∈ before.desk.calls := by
    rw [← calls]
    exact List.mem_filter.mpr ⟨held, rfl⟩
  have watched := watched_of_reaches reached
  refine idle ⟨?_, ?_⟩
  · rw [busy]
    exact watched.busy_of_write own
  · rw [active]
    exact (watched.active ticket tag vector own).2.1

/-- The context of CEQ 2 arrives for the first time. -/
theorem first_ceq_created_exclusively :
    ∃ before after, Reaches (step (.small false)) (Unreported (.small false)) .initial before ∧
      step (.small false) before (.fire 0 true ceqImage) = some after ∧
      before.installsCeq (.fire 0 true ceqImage) = some 2 ∧
      (∃ ceq, after.ceqs.lookup 2 = some ceq ∧ ceq.producer = 0 ∧ ceq.consumer = 0) ∧
      ∀ event ∈ after.completionEvents, event.ceqId ≠ 2 := by
  obtain ⟨before, reached, seen⟩ := exists_of_execute
    (show (execute (step (.small false)) (Unreported (.small false))
        [.mailbox ⟨.createCeq, 2, 0x1000⟩, .run] .initial).map
        (fun before => (before.installsCeq (.fire 0 true ceqImage),
          (step (.small false) before (.fire 0 true ceqImage)).isSome)) =
      some (some 2, true) by decide +kernel)
  obtain ⟨installs, next⟩ := Prod.mk.inj seen
  obtain ⟨after, taken⟩ := Option.isSome_iff_exists.mp next
  obtain ⟨fresh, unqueued, _⟩ := ceq_created_exclusively reached taken installs
  exact ⟨before, after, reached, taken, installs, fresh, unqueued⟩

/-- Another context for CEQ 2. -/
def otherCeqImage : Bytes := store64 0 ++ store64 0x20000000 ++ List.replicate 48 0

/-- CEQ 2 is idle when its context is read again.  Then a CQE of JFC 7 is published, and its
event is being written when the context arrives. -/
def reportedWhileCreating : List Event :=
  created ++ [.mailbox ⟨.createCeq, 2, 0x1000⟩, .run, .writeCqe 7 .small] ++ pass 7 ++
    [.fire 1 true (store32 0), .run, .fire 1 true []] ++ runs 10 ++ pass 8

/-- The new context is installed under the write of the old one, and the acknowledgement
of that write moves the new producer. -/
theorem ceq_installed_under_a_write :
    ∃ before after last, Reaches (step (.small false)) always .initial before ∧
      before.installsCeq (.fire 0 true otherCeqImage) = some 2 ∧
      step (.small false) before (.fire 0 true otherCeqImage) = some after ∧
      after.completionEventBusy = true ∧ after.activeCeqId = 2 ∧
      after.outstanding = [.ceqeWritten 0 2 0, .descriptorWritten] ∧
      (after.ceqs.lookup 2).map Ceq.producer = some 0 ∧
      Reaches (step (.small false)) always after last ∧
      (last.ceqs.lookup 2).map Ceq.producer = some 1 := by
  obtain ⟨before, reached, seen⟩ := exists_of_execute
    (show (execute (step (.small false)) always reportedWhileCreating .initial).map
        (fun before => before.installsCeq (.fire 0 true otherCeqImage) == some 2 &&
          (step (.small false) before (.fire 0 true otherCeqImage)).any fun after =>
            after.completionEventBusy && after.activeCeqId == 2 &&
              after.outstanding == [.ceqeWritten 0 2 0, .descriptorWritten] &&
              (after.ceqs.lookup 2).map Ceq.producer == some 0 &&
              (execute (step (.small false)) always [.run, .fire 0 true []] after).any fun last =>
                (last.ceqs.lookup 2).map Ceq.producer == some 1) =
      some true by decide +kernel)
  simp only [Bool.and_eq_true, beq_iff_eq, Option.any_eq_true] at seen
  obtain ⟨installs, after, taken, ⟨⟨⟨busy, active⟩, outstanding⟩, fresh⟩, last, ran, moved⟩ := seen
  exact ⟨before, after, last, reached, installs, taken, busy, active, outstanding, fresh,
    reaches_of_execute ran, moved⟩

end Udma.Cq
