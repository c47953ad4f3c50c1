import Mathlib
import Udma.Collections.Table
import Udma.Transition.Run

/-!
# Egress reservations of credit-based flow control

A packet that enters the egress queue takes credit of its virtual lane, of the shared pool and,
when credit for the peer rides on it, of the credit to return.  The reservation remembers what
it took until the packet is transmitted or cancelled.  How much a packet takes is decided by
functions of ns-3-ub, which are parameters here.
-/

namespace Udma.Cbfc

open Udma.Collections Udma.Transition

/-- `m_crdTxfree`, `m_shareCrd` and `m_crdToReturn` of a port. -/
@[ext]
structure Pools (Lane Credit : Type) where
  crdTxfree : Lane → Credit
  shareCrd : Credit
  crdToReturn : Lane → Credit

/-- `EgressReservation`. -/
structure Reservation (Lane Credit : Type) where
  vl : Lane
  dedicated : Credit
  shared : Credit
  piggyVl : Lane
  piggyCells : Credit

/-- What ns-3-ub supplies, for `UbCbfcSharedCredit` or for `UbCbfc`. -/
structure Port (Lane Credit Content : Type) where
  sharedCredit : Bool
  isControl : Content → Bool
  /-- The lane of the header, if it is one of the port's. -/
  packetVl : Content → Option Lane
  lane0 : Lane
  /-- `CbfcConsumeCrd` and `CbfcSharedConsumeCrd`. -/
  consumeCrd : Content → Pools Lane Credit → Bool × Pools Lane Credit
  /-- `TryAttachPiggybackCredit`, with the lane that the header then shows. -/
  tryAttachPiggybackCredit : Content → Pools Lane Credit → Option Lane × Pools Lane Credit
  retCellGrainDataPacket : Credit
  /-- `MaybeQueueControlReturn`, with the credits of the frames that it queues. -/
  maybeQueueControlReturn : Pools Lane Credit → Pools Lane Credit × List (Lane → Credit)

structure State (Lane Credit Packet : Type) where
  pools : Pools Lane Credit
  egressReservations : AList fun _ : Packet => Reservation Lane Credit
  controlReturns : List (Lane → Credit)

inductive Event (Lane Credit Packet Content : Type) where
  | enqueued (packet : Packet) (content : Content)
  | transmitted (packet : Packet)
  | cancelled (packet : Packet)
  /-- The other handlers: the peer returns credit, and the ingress queue releases cells. -/
  | supplied (gain : Pools Lane Credit)
  | controlReturn

variable {Lane Credit Packet Content : Type} [DecidableEq Lane] [DecidableEq Packet]
  [AddCommGroup Credit]

namespace Port

variable [DecidableEq Credit] (port : Port Lane Credit Content) (state : State Lane Credit Packet)

/-- `RememberReservation`. -/
def rememberReservation (packet : Packet) (content : Content)
    (reservation : Reservation Lane Credit) : Option (State Lane Credit Packet) :=
  if packet ∈ state.egressReservations then none
  else
    match port.tryAttachPiggybackCredit content state.pools with
    | (some target, pools) => some { state with
        pools := pools
        egressReservations := state.egressReservations.insert packet
          { reservation with
            piggyVl := target
            piggyCells := port.retCellGrainDataPacket } }
    | (none, pools) => some { state with
        pools := pools
        egressReservations := state.egressReservations.insert packet reservation }

/-- `OnEgressEnqueued` of both classes. -/
def onEgressEnqueued (packet : Packet) (content : Content) : Option (State Lane Credit Packet) :=
  if port.isControl content then some state
  else do
    let vl ← port.packetVl content
    let before := state.pools.crdTxfree vl
    let sharedBefore := state.pools.shareCrd
    match port.consumeCrd content state.pools with
    | (false, _) => none
    | (true, pools) =>
        port.rememberReservation { state with pools := pools } packet content
          { vl := vl
            dedicated := before - pools.crdTxfree vl
            shared := if port.sharedCredit then sharedBefore - pools.shareCrd else 0
            piggyVl := port.lane0
            piggyCells := 0 }

/-- `OnEgressTransmitted`. -/
def onEgressTransmitted (packet : Packet) : State Lane Credit Packet :=
  { state with egressReservations := state.egressReservations.erase packet }

/-- `RestoreSharedReservation` of both classes. -/
def restoreSharedReservation (pools : Pools Lane Credit) (cells : Credit) :
    Option (Pools Lane Credit) :=
  if port.sharedCredit then some { pools with shareCrd := pools.shareCrd + cells }
  else if cells ≠ 0 then none
  else some pools

def queueControlReturn : State Lane Credit Packet :=
  { state with
    pools := (port.maybeQueueControlReturn state.pools).1
    controlReturns := state.controlReturns ++ (port.maybeQueueControlReturn state.pools).2 }

/-- `OnEgressCancelled`. -/
def onEgressCancelled (packet : Packet) : Option (State Lane Credit Packet) :=
  match state.egressReservations.lookup packet with
  | none => some state
  | some reservation => do
      let pools := { state.pools with
        crdTxfree := Function.update state.pools.crdTxfree reservation.vl
          (state.pools.crdTxfree reservation.vl + reservation.dedicated) }
      let pools ← port.restoreSharedReservation pools reservation.shared
      let pools := { pools with
        crdToReturn := Function.update pools.crdToReturn reservation.piggyVl
          (pools.crdToReturn reservation.piggyVl + reservation.piggyCells) }
      some (port.queueControlReturn { state with
        pools := pools
        egressReservations := state.egressReservations.erase packet })

/-- One handler runs; `none` when it aborts. -/
def step : Event Lane Credit Packet Content → Option (State Lane Credit Packet)
  | .enqueued packet content => port.onEgressEnqueued state packet content
  | .transmitted packet => some (onEgressTransmitted state packet)
  | .cancelled packet => port.onEgressCancelled state packet
  | .supplied gain => some { state with
      pools := {
        crdTxfree := state.pools.crdTxfree + gain.crdTxfree
        shareCrd := state.pools.shareCrd + gain.shareCrd
        crdToReturn := state.pools.crdToReturn + gain.crdToReturn } }
  | .controlReturn => some (port.queueControlReturn state)

end Port

/-! ## Credit as one quantity -/

/-- Dedicated credit, shared credit and credit to return. -/
abbrev Credits (Lane Credit : Type) := (Lane → Credit) × Credit × (Lane → Credit)

def Pools.credits (pools : Pools Lane Credit) : Credits Lane Credit :=
  (pools.crdTxfree, pools.shareCrd, pools.crdToReturn)

def Reservation.credits (reservation : Reservation Lane Credit) : Credits Lane Credit :=
  (Pi.single reservation.vl reservation.dedicated, reservation.shared,
    Pi.single reservation.piggyVl reservation.piggyCells)

def returnable (credit : Lane → Credit) : Credits Lane Credit := (0, 0, credit)

/-- What the functions of ns-3-ub do: a packet takes credit of its own lane and, on a port with
shared credit, of the shared pool; credit that rides on a packet, or in control frames, is
credit to return. -/
structure Port.Documented (port : Port Lane Credit Content) : Prop where
  consume : ∀ content vl pools after, port.packetVl content = some vl →
    port.consumeCrd content pools = (true, after) → ∃ dedicated shared,
      (port.sharedCredit = false → shared = 0) ∧
      pools.credits = after.credits + (Pi.single vl dedicated, shared, 0)
  attached : ∀ content pools target after,
    port.tryAttachPiggybackCredit content pools = (some target, after) →
      pools.credits = after.credits + returnable (Pi.single target port.retCellGrainDataPacket)
  unattached : ∀ content pools after,
    port.tryAttachPiggybackCredit content pools = (none, after) → after = pools
  queued : ∀ pools, pools.credits = (port.maybeQueueControlReturn pools).1.credits +
    returnable (port.maybeQueueControlReturn pools).2.sum

/-- What is remembered of the reservations: the number of each, and what the pools lost when its
packet was enqueued. -/
structure Journal (Lane Credit Packet : Type) where
  live : AList fun _ : Packet => Nat × Credits Lane Credit
  created : Nat
  settled : List Nat
  sent : Credits Lane Credit
  supplied : Credits Lane Credit

def Journal.start : Journal Lane Credit Packet := ⟨∅, 0, [], 0, 0⟩

def Journal.record (before : State Lane Credit Packet) (event : Event Lane Credit Packet Content)
    (after : State Lane Credit Packet) (journal : Journal Lane Credit Packet) :
    Journal Lane Credit Packet :=
  match event with
  | .enqueued packet _ =>
      if packet ∈ after.egressReservations ∧ packet ∉ before.egressReservations then
        { journal with
          live := journal.live.insert packet
            (journal.created, before.pools.credits - after.pools.credits)
          created := journal.created + 1 }
      else journal
  | .transmitted packet =>
      match journal.live.lookup packet with
      | none => journal
      | some (number, taken) => { journal with
          live := journal.live.erase packet
          settled := journal.settled ++ [number]
          sent := journal.sent + taken }
  | .cancelled packet =>
      match journal.live.lookup packet with
      | none => journal
      | some (number, _) => { journal with
          live := journal.live.erase packet
          settled := journal.settled ++ [number] }
  | .supplied gain => { journal with supplied := journal.supplied + gain.credits }
  | .controlReturn => journal

def Port.recording [DecidableEq Credit] (port : Port Lane Credit Content) :
    State Lane Credit Packet × Journal Lane Credit Packet → Event Lane Credit Packet Content →
      Option (State Lane Credit Packet × Journal Lane Credit Packet) :=
  recorded port.step Journal.record

/-! ## What a step does -/

section Steps

variable {port : Port Lane Credit Content} {state after : State Lane Credit Packet}
  {packet : Packet} {content : Content}

theorem update_add (credit : Lane → Credit) (vl : Lane) (cells : Credit) :
    Function.update credit vl (credit vl + cells) = credit + Pi.single vl cells := by
  funext other
  by_cases same : other = vl
  · subst same
    simp
  · simp [Function.update_of_ne same, Pi.single_eq_of_ne same]

/-- What a step does to the credit and the reservations. -/
inductive Move (sharedCredit : Bool) (state : State Lane Credit Packet) :
    Event Lane Credit Packet Content → State Lane Credit Packet → Prop where
  | passed (packet : Packet) (content : Content) :
      Move sharedCredit state (.enqueued packet content) state
  | reserved (packet : Packet) (content : Content) (pools : Pools Lane Credit)
      (reservation : Reservation Lane Credit)
      (fresh : state.egressReservations.lookup packet = none)
      (plain : sharedCredit = false → reservation.shared = 0)
      (taken : state.pools.credits = pools.credits + reservation.credits) :
      Move sharedCredit state (.enqueued packet content)
        { state with
          pools := pools
          egressReservations := state.egressReservations.insert packet reservation }
  | sent (packet : Packet) :
      Move sharedCredit state (.transmitted packet)
        { state with egressReservations := state.egressReservations.erase packet }
  | unreserved (packet : Packet) (absent : state.egressReservations.lookup packet = none) :
      Move sharedCredit state (.cancelled packet) state
  | restored (packet : Packet) (reservation : Reservation Lane Credit) (pools : Pools Lane Credit)
      (frames : List (Lane → Credit))
      (held : state.egressReservations.lookup packet = some reservation)
      (credits : pools.credits + returnable frames.sum =
        state.pools.credits + reservation.credits) :
      Move sharedCredit state (.cancelled packet)
        { pools := pools
          egressReservations := state.egressReservations.erase packet
          controlReturns := state.controlReturns ++ frames }
  | supplied (gain pools : Pools Lane Credit)
      (credits : pools.credits = state.pools.credits + gain.credits) :
      Move sharedCredit state (.supplied gain) { state with pools := pools }
  | returned (pools : Pools Lane Credit) (frames : List (Lane → Credit))
      (credits : pools.credits + returnable frames.sum = state.pools.credits) :
      Move sharedCredit state .controlReturn
        { state with
          pools := pools
          controlReturns := state.controlReturns ++ frames }

theorem rememberReservation_move (documented : port.Documented) {pools : Pools Lane Credit}
    {vl : Lane} {dedicated shared : Credit}
    (plain : port.sharedCredit = false → shared = 0)
    (taken : state.pools.credits = pools.credits + (Pi.single vl dedicated, shared, 0))
    (remembered : port.rememberReservation { state with pools := pools } packet content
      ⟨vl, dedicated, shared, port.lane0, 0⟩ = some after) :
    Move port.sharedCredit state (.enqueued packet content) after := by
  unfold Port.rememberReservation at remembered
  split at remembered
  next => simp at remembered
  next fresh =>
    have absent : state.egressReservations.lookup packet = none := AList.lookup_eq_none.mpr fresh
    split at remembered
    next target attached same =>
      obtain rfl := Option.some.inj remembered
      refine .reserved packet content attached _ absent plain ?_
      rw [taken, documented.attached content pools target attached same, add_assoc]
      simp [Reservation.credits, returnable]
    next unattached same =>
      obtain rfl := Option.some.inj remembered
      refine .reserved packet content unattached _ absent plain ?_
      rw [taken, documented.unattached content pools unattached same]
      simp [Reservation.credits]

theorem onEgressEnqueued_move (documented : port.Documented)
    (enqueued : port.onEgressEnqueued state packet content = some after) :
    Move port.sharedCredit state (.enqueued packet content) after := by
  unfold Port.onEgressEnqueued at enqueued
  split at enqueued
  next =>
    obtain rfl := Option.some.inj enqueued
    exact .passed packet content
  next =>
    obtain ⟨vl, header, enqueued⟩ := Option.bind_eq_some_iff.mp enqueued
    dsimp only at enqueued
    split at enqueued
    next => simp at enqueued
    next consumed same =>
      obtain ⟨dedicated, shared, plain, credits⟩ :=
        documented.consume content vl state.pools consumed header same
      have own := congrFun (congrArg Prod.fst credits) vl
      have pool := congrArg (fun credits => credits.2.1) credits
      simp only [Pools.credits, Prod.fst_add, Prod.snd_add, Pi.add_apply, Pi.single_eq_same]
        at own pool
      rw [own, pool, add_sub_cancel_left, add_sub_cancel_left] at enqueued
      have remembered : (if port.sharedCredit = true then shared else 0) = shared := by
        split
        next => rfl
        next unshared => exact (plain (by simpa using unshared)).symm
      rw [remembered] at enqueued
      exact rememberReservation_move documented plain credits enqueued

omit [DecidableEq Packet] in
theorem queueControlReturn_eq (documented : port.Documented)
    (state : State Lane Credit Packet) :
    ∃ pools frames, port.queueControlReturn state =
        { state with
          pools := pools
          controlReturns := state.controlReturns ++ frames } ∧
      pools.credits + returnable frames.sum = state.pools.credits :=
  ⟨_, _, rfl, (documented.queued state.pools).symm⟩

variable [DecidableEq Credit]

/-- A cancel gives back what the reservation holds. -/
theorem onEgressCancelled_move (documented : port.Documented)
    (cancelled : port.onEgressCancelled state packet = some after) :
    Move port.sharedCredit state (.cancelled packet : Event Lane Credit Packet Content) after := by
  unfold Port.onEgressCancelled at cancelled
  split at cancelled
  next absent =>
    obtain rfl := Option.some.inj cancelled
    exact .unreserved packet absent
  next reservation held =>
    obtain ⟨pools, restored, cancelled⟩ := Option.bind_eq_some_iff.mp cancelled
    obtain rfl := Option.some.inj cancelled
    have shared : pools = ⟨state.pools.crdTxfree + Pi.single reservation.vl reservation.dedicated,
        state.pools.shareCrd + reservation.shared, state.pools.crdToReturn⟩ := by
      unfold Port.restoreSharedReservation at restored
      rw [update_add] at restored
      split at restored
      next => exact (Option.some.inj restored).symm
      next =>
        split at restored
        next => simp at restored
        next zero =>
          obtain rfl := Option.some.inj restored
          simp [not_not.mp zero]
    subst shared
    obtain ⟨after, frames, same, credits⟩ := queueControlReturn_eq documented
      { state with
        pools := ⟨state.pools.crdTxfree + Pi.single reservation.vl reservation.dedicated,
          state.pools.shareCrd + reservation.shared,
          state.pools.crdToReturn + Pi.single reservation.piggyVl reservation.piggyCells⟩
        egressReservations := state.egressReservations.erase packet }
    rw [update_add]
    rw [same]
    exact .restored packet reservation after frames held credits

/-- Every handler is one of the moves. -/
theorem step_move (documented : port.Documented) {event : Event Lane Credit Packet Content}
    (taken : port.step state event = some after) : Move port.sharedCredit state event after := by
  cases event with
  | enqueued packet content => exact onEgressEnqueued_move documented taken
  | transmitted packet =>
      obtain rfl := Option.some.inj taken
      exact .sent packet
  | cancelled packet => exact onEgressCancelled_move documented taken
  | supplied gain =>
      obtain rfl := Option.some.inj taken
      exact .supplied gain _ rfl
  | controlReturn =>
      obtain rfl := Option.some.inj taken
      obtain ⟨pools, frames, same, credits⟩ := queueControlReturn_eq documented state
      rw [same]
      exact .returned pools frames credits

end Steps

/-! ## Runs -/

section Runs

variable {port : Port Lane Credit Content} {state after : State Lane Credit Packet}
  {journal : Journal Lane Credit Packet} {start : Pools Lane Credit}

def Journal.numbers (journal : Journal Lane Credit Packet) : Multiset Nat :=
  tableTotal (fun entry => {entry.1}) journal.live

/-- The journal knows what the reservations hold, and no credit is lost. -/
structure Journal.Sound (start : Pools Lane Credit) (state : State Lane Credit Packet)
    (journal : Journal Lane Credit Packet) : Prop where
  holds : ∀ packet, (journal.live.lookup packet).map Prod.snd =
    (state.egressReservations.lookup packet).map Reservation.credits
  total : state.pools.credits + tableTotal Reservation.credits state.egressReservations +
      journal.sent + returnable state.controlReturns.sum = start.credits + journal.supplied
  numbers : journal.numbers + (journal.settled : Multiset Nat) = Multiset.range journal.created

namespace Journal.Sound

variable {packet : Packet}

theorem live_none (sound : journal.Sound start state)
    (absent : state.egressReservations.lookup packet = none) :
    journal.live.lookup packet = none := by
  have same := sound.holds packet
  rw [absent] at same
  exact Option.map_eq_none_iff.mp same

theorem live_some (sound : journal.Sound start state) {reservation : Reservation Lane Credit}
    (held : state.egressReservations.lookup packet = some reservation) :
    ∃ number, journal.live.lookup packet = some (number, reservation.credits) := by
  have same := sound.holds packet
  rw [held] at same
  obtain ⟨⟨number, taken⟩, found, rfl⟩ := Option.map_eq_some_iff.mp same
  exact ⟨number, found⟩

omit [DecidableEq Lane] in
theorem returnable_add (one other : Lane → Credit) :
    returnable (one + other) = returnable one + returnable other := by
  simp [returnable]

/-- A new reservation. -/
theorem reserved (sound : journal.Sound start state) (content : Content)
    {pools : Pools Lane Credit} {reservation : Reservation Lane Credit}
    (fresh : state.egressReservations.lookup packet = none)
    (taken : state.pools.credits = pools.credits + reservation.credits) :
    (journal.record state (.enqueued packet content) { state with
      pools := pools
      egressReservations := state.egressReservations.insert packet reservation }).Sound start
      { state with
        pools := pools
        egressReservations := state.egressReservations.insert packet reservation } := by
  have added : packet ∈ state.egressReservations.insert packet reservation ∧
      packet ∉ state.egressReservations := ⟨by simp, AList.lookup_eq_none.mp fresh⟩
  have lost : state.pools.credits - pools.credits = reservation.credits := by
    rw [taken, add_sub_cancel_left]
  simp only [Journal.record]
  rw [if_pos added, lost]
  refine ⟨fun other => ?_, ?_, ?_⟩
  · by_cases same : other = packet
    · subst same
      simp
    · simpa [AList.lookup_insert_ne same] using sound.holds other
  · have total := sound.total
    rw [taken] at total
    dsimp only
    rw [tableTotal_insert, tableTotal_erase_of_none _ fresh, ← total]
    abel
  · have numbers := sound.numbers
    simp only [Journal.numbers] at numbers ⊢
    rw [tableTotal_insert, tableTotal_erase_of_none _ (sound.live_none fresh),
      Multiset.range_succ, ← numbers, add_assoc, Multiset.singleton_add]

/-- A settled reservation is no longer live. -/
theorem holds_erase (sound : journal.Sound start state) (packet other : Packet) :
    ((journal.live.erase packet).lookup other).map Prod.snd =
      ((state.egressReservations.erase packet).lookup other).map Reservation.credits := by
  by_cases same : other = packet
  · subst same
    simp
  · simpa [AList.lookup_erase_ne same] using sound.holds other

theorem numbers_erase (sound : journal.Sound start state) {number : Nat}
    {taken : Credits Lane Credit} (found : journal.live.lookup packet = some (number, taken)) :
    (tableTotal (fun entry => {entry.1}) (journal.live.erase packet) : Multiset Nat) +
      ((journal.settled ++ [number] : List Nat) : Multiset Nat) =
        Multiset.range journal.created := by
  have numbers := sound.numbers
  rw [Journal.numbers, tableTotal_of_lookup _ found] at numbers
  rw [← numbers, ← Multiset.coe_add, Multiset.coe_singleton]
  abel

omit [DecidableEq Lane] [AddCommGroup Credit] in
theorem erase_none (absent : state.egressReservations.lookup packet = none) :
    state.egressReservations.erase packet = state.egressReservations :=
  AList.ext (List.kerase_of_notMem_keys
    (mt AList.mem_keys.mpr (AList.lookup_eq_none.mp absent)))

theorem sent (sound : journal.Sound start state) (packet : Packet) :
    (journal.record state (.transmitted packet : Event Lane Credit Packet Content)
      { state with egressReservations := state.egressReservations.erase packet }).Sound start
      { state with egressReservations := state.egressReservations.erase packet } := by
  cases held : state.egressReservations.lookup packet with
  | none =>
      simp only [Journal.record, sound.live_none held]
      rw [erase_none held]
      exact sound
  | some reservation =>
      obtain ⟨number, found⟩ := sound.live_some held
      simp only [Journal.record, found]
      refine ⟨sound.holds_erase packet, ?_, sound.numbers_erase found⟩
      have total := sound.total
      rw [tableTotal_of_lookup _ held] at total
      dsimp only
      rw [← total]
      abel

theorem restored (sound : journal.Sound start state) {reservation : Reservation Lane Credit}
    {pools : Pools Lane Credit} {frames : List (Lane → Credit)}
    (held : state.egressReservations.lookup packet = some reservation)
    (credits : pools.credits + returnable frames.sum =
      state.pools.credits + reservation.credits) :
    (journal.record state (.cancelled packet : Event Lane Credit Packet Content)
      ⟨pools, state.egressReservations.erase packet,
        state.controlReturns ++ frames⟩).Sound start
      ⟨pools, state.egressReservations.erase packet, state.controlReturns ++ frames⟩ := by
  obtain ⟨number, found⟩ := sound.live_some held
  simp only [Journal.record, found]
  refine ⟨sound.holds_erase packet, ?_, sound.numbers_erase found⟩
  have total := sound.total
  rw [tableTotal_of_lookup _ held] at total
  dsimp only
  calc pools.credits + tableTotal Reservation.credits (state.egressReservations.erase packet) +
          journal.sent + returnable (state.controlReturns ++ frames).sum
      = (pools.credits + returnable frames.sum) +
          tableTotal Reservation.credits (state.egressReservations.erase packet) +
          journal.sent + returnable state.controlReturns.sum := by
        rw [List.sum_append, returnable_add]
        abel
    _ = start.credits + journal.supplied := by
        rw [credits, ← total]
        abel

theorem move {event : Event Lane Credit Packet Content} {sharedCredit : Bool}
    (sound : journal.Sound start state) (moved : Move sharedCredit state event after) :
    (journal.record state event after).Sound start after := by
  cases moved with
  | passed packet content =>
      have same : journal.record state (.enqueued packet content) state = journal := by
        simp [Journal.record]
      rw [same]
      exact sound
  | reserved packet content pools reservation fresh plain taken =>
      exact sound.reserved content fresh taken
  | sent packet => exact sound.sent packet
  | unreserved packet absent =>
      simp only [Journal.record, sound.live_none absent]
      exact sound
  | restored packet reservation pools frames held credits => exact sound.restored held credits
  | supplied gain pools credits =>
      refine ⟨sound.holds, ?_, sound.numbers⟩
      have total := sound.total
      simp only [Journal.record]
      rw [credits, ← add_assoc start.credits, ← total]
      abel
  | returned pools frames credits =>
      refine ⟨sound.holds, ?_, sound.numbers⟩
      have total := sound.total
      simp only [Journal.record]
      rw [List.sum_append, returnable_add, ← total, ← credits]
      abel

end Journal.Sound

/-- On a port without shared credit no reservation holds any. -/
def State.Plain (sharedCredit : Bool) (state : State Lane Credit Packet) : Prop :=
  sharedCredit = false → ∀ packet reservation,
    state.egressReservations.lookup packet = some reservation → reservation.shared = 0

theorem State.Plain.move {event : Event Lane Credit Packet Content} {sharedCredit : Bool}
    (plain : state.Plain sharedCredit) (moved : Move sharedCredit state event after) :
    after.Plain sharedCredit := by
  intro mode other reservation held
  cases moved with
  | reserved packet content pools new fresh own taken =>
      by_cases same : other = packet
      · subst same
        simp only [AList.lookup_insert, Option.some.injEq] at held
        exact held ▸ own mode
      · simp only [AList.lookup_insert_ne same] at held
        exact plain mode other reservation held
  | sent packet | restored packet =>
      by_cases same : other = packet
      · subst same
        simp at held
      · simp only [AList.lookup_erase_ne same] at held
        exact plain mode other reservation held
  | _ => exact plain mode other reservation held

variable [DecidableEq Credit]

theorem sound_of_reaches (documented : port.Documented)
    (reached : Reaches port.recording (recordedGuard always) (⟨start, ∅, []⟩, .start)
      (state, journal)) :
    journal.Sound start state ∧ state.Plain port.sharedCredit := by
  refine reached.recorded_induction
    (fun state journal => journal.Sound start state ∧ state.Plain port.sharedCredit) ?_ ?_
  · refine ⟨⟨fun _ => rfl, ?_, rfl⟩, fun _ packet reservation held => by simp at held⟩
    simp [Journal.start, returnable]
  · intro before event after journal _ invariants taken _
    have moved := step_move documented taken
    exact ⟨invariants.1.move moved, invariants.2.move moved⟩

/-- The dedicated cells of a reservation on one lane. -/
def Reservation.dedicatedOn (vl : Lane) (reservation : Reservation Lane Credit) : Credit :=
  if vl = reservation.vl then reservation.dedicated else 0

def Reservation.piggyOn (vl : Lane) (reservation : Reservation Lane Credit) : Credit :=
  if vl = reservation.piggyVl then reservation.piggyCells else 0

/-- What the enqueue of the packet took from the pools, if its reservation is live. -/
def Journal.taken (journal : Journal Lane Credit Packet) (packet : Packet) : Credits Lane Credit :=
  ((journal.live.lookup packet).map Prod.snd).getD 0

/-- A cancel does not abort. -/
theorem onEgressCancelled_isSome (plain : state.Plain port.sharedCredit) (packet : Packet) :
    ∃ after, port.onEgressCancelled state packet = some after := by
  unfold Port.onEgressCancelled
  cases held : state.egressReservations.lookup packet with
  | none => exact ⟨state, rfl⟩
  | some reservation =>
      unfold Port.restoreSharedReservation
      cases mode : port.sharedCredit with
      | true => exact ⟨_, rfl⟩
      | false =>
          have zero := plain mode packet reservation held
          simp only [zero, Bool.false_eq_true, if_false, ne_eq, not_true_eq_false]
          exact ⟨_, rfl⟩

omit [DecidableEq Credit] in
theorem Journal.Sound.components (sound : journal.Sound start state) :
    (∀ vl, state.pools.crdTxfree vl +
        tableTotal (Reservation.dedicatedOn vl) state.egressReservations + journal.sent.1 vl =
          start.crdTxfree vl + journal.supplied.1 vl) ∧
      state.pools.shareCrd + tableTotal Reservation.shared state.egressReservations +
        journal.sent.2.1 = start.shareCrd + journal.supplied.2.1 ∧
      ∀ vl, state.pools.crdToReturn vl +
        tableTotal (Reservation.piggyOn vl) state.egressReservations + journal.sent.2.2 vl +
          state.controlReturns.sum vl = start.crdToReturn vl + journal.supplied.2.2 vl := by
  have total := sound.total
  refine ⟨fun vl => ?_, ?_, fun vl => ?_⟩
  · have lane := congrArg ((Pi.evalAddMonoidHom _ vl).comp (AddMonoidHom.fst _ _)) total
    simp only [map_add, map_tableTotal] at lane
    have held : (fun reservation : Reservation Lane Credit =>
        ((Pi.evalAddMonoidHom _ vl).comp (AddMonoidHom.fst _ _)) reservation.credits) =
        Reservation.dedicatedOn vl := by
      funext reservation
      simp [Reservation.credits, Reservation.dedicatedOn, Pi.single_apply]
    rw [held] at lane
    simpa [Pools.credits, returnable] using lane
  · have pool := congrArg ((AddMonoidHom.fst _ _).comp (AddMonoidHom.snd _ _)) total
    simp only [map_add, map_tableTotal] at pool
    simpa [Pools.credits, Reservation.credits, returnable] using pool
  · have lane := congrArg ((Pi.evalAddMonoidHom _ vl).comp
      ((AddMonoidHom.snd _ _).comp (AddMonoidHom.snd _ _))) total
    simp only [map_add, map_tableTotal] at lane
    have held : (fun reservation : Reservation Lane Credit =>
        ((Pi.evalAddMonoidHom _ vl).comp ((AddMonoidHom.snd _ _).comp (AddMonoidHom.snd _ _)))
          reservation.credits) = Reservation.piggyOn vl := by
      funext reservation
      simp [Reservation.credits, Reservation.piggyOn, Pi.single_apply]
    rw [held] at lane
    simpa [Pools.credits, returnable] using lane

end Runs

/-- Of each lane's dedicated credit, of the shared pool and of each lane's credit to return,
nothing is lost or made; every reservation is live or settled once; and a cancel gives back what
the enqueue of its own packet took, whatever happened since. -/
theorem egress_reservations_conserve [DecidableEq Credit] {port : Port Lane Credit Content}
    (documented : port.Documented) {start : Pools Lane Credit} {state : State Lane Credit Packet}
    {journal : Journal Lane Credit Packet}
    (reached : Reaches port.recording always (⟨start, ∅, []⟩, .start) (state, journal)) :
    (∀ vl, state.pools.crdTxfree vl +
        tableTotal (Reservation.dedicatedOn vl) state.egressReservations + journal.sent.1 vl =
          start.crdTxfree vl + journal.supplied.1 vl) ∧
      state.pools.shareCrd + tableTotal Reservation.shared state.egressReservations +
        journal.sent.2.1 = start.shareCrd + journal.supplied.2.1 ∧
      (∀ vl, state.pools.crdToReturn vl +
        tableTotal (Reservation.piggyOn vl) state.egressReservations + journal.sent.2.2 vl +
          state.controlReturns.sum vl = start.crdToReturn vl + journal.supplied.2.2 vl) ∧
      journal.numbers + (journal.settled : Multiset Nat) = Multiset.range journal.created ∧
      (∀ packet, (journal.live.lookup packet).isSome =
        (state.egressReservations.lookup packet).isSome) ∧
      ∀ packet, ∃ after frames, port.step state (.cancelled packet) = some after ∧
        after.egressReservations.lookup packet = none ∧
        after.controlReturns = state.controlReturns ++ frames ∧
        after.pools.credits + returnable frames.sum =
          state.pools.credits + journal.taken packet := by
  have recorded : Reaches port.recording (recordedGuard always) (⟨start, ∅, []⟩, .start)
      (state, journal) := reached.mono fun _ _ _ _ => trivial
  obtain ⟨sound, plain⟩ := sound_of_reaches documented recorded
  obtain ⟨dedicated, shared, returned⟩ := sound.components
  refine ⟨dedicated, shared, returned, sound.numbers, fun packet => ?_, fun packet => ?_⟩
  · have same := congrArg Option.isSome (sound.holds packet)
    simpa using same
  · obtain ⟨after, cancelled⟩ := onEgressCancelled_isSome plain packet
    have moved : Move port.sharedCredit state
      (.cancelled packet : Event Lane Credit Packet Content) after :=
        onEgressCancelled_move documented cancelled
    cases moved with
    | unreserved _ absent =>
        refine ⟨state, [], cancelled, absent, (List.append_nil _).symm, ?_⟩
        simp [Journal.taken, sound.live_none absent, returnable]
    | restored _ reservation pools frames held credits =>
        obtain ⟨number, found⟩ := sound.live_some held
        refine ⟨_, frames, cancelled, by simp, rfl, ?_⟩
        simpa [Journal.taken, found] using credits

/-- Two lanes, packets of a lane and a number of cells, and one cell on each packet. -/
def Port.small : Port (Fin 2) Int (Fin 2 × Int) where
  sharedCredit := false
  isControl := fun _ => false
  packetVl := fun content => some content.1
  lane0 := 0
  consumeCrd := fun content pools =>
    if content.2 ≤ pools.crdTxfree content.1 then
      (true, { pools with
        crdTxfree := Function.update pools.crdTxfree content.1
          (pools.crdTxfree content.1 + -content.2) })
    else (false, pools)
  tryAttachPiggybackCredit := fun content pools =>
    if 1 ≤ pools.crdToReturn content.1 then
      (some content.1, { pools with
        crdToReturn := Function.update pools.crdToReturn content.1
          (pools.crdToReturn content.1 + -1) })
    else (none, pools)
  retCellGrainDataPacket := 1
  maybeQueueControlReturn := fun pools => (pools, [])

theorem Port.small_documented : Port.small.Documented where
  consume := by
    intro content vl pools after header consumed
    obtain rfl : content.1 = vl := Option.some.inj header
    simp only [Port.small] at consumed
    split at consumed
    next =>
      obtain rfl := (Prod.mk.inj consumed).2
      refine ⟨content.2, 0, fun _ => rfl, ?_⟩
      simp [Pools.credits, update_add, add_assoc, ← Pi.single_add]
    next => simp at consumed
  attached := by
    intro content pools target after tried
    simp only [Port.small] at tried
    split at tried
    next =>
      obtain ⟨same, rfl⟩ := Prod.mk.inj tried
      obtain rfl := Option.some.inj same
      simp [Pools.credits, returnable, Port.small, update_add, add_assoc, ← Pi.single_add]
    next => simp at tried
  unattached := by
    intro content pools after tried
    simp only [Port.small] at tried
    split at tried
    next => simp at tried
    next => exact (Prod.mk.inj tried).2.symm
  queued := fun pools => by simp [Port.small, returnable]

/-- One packet takes credit and a cell to return, another one follows it and is transmitted, and
the first is cancelled. -/
theorem egress_reservations_conserve_after_overtaking :
    ∃ state journal, Reaches Port.small.recording always
        (⟨⟨fun _ => 10, 0, fun vl => if vl = 1 then 1 else 0⟩, ∅, []⟩, .start) (state, journal) ∧
      state.pools.crdTxfree 1 = 3 ∧ (journal.taken 100).1 1 = 4 ∧ (journal.taken 100).2.2 1 = 1 ∧
      ∃ after frames, Port.small.step state (.cancelled 100) = some after ∧
        after.egressReservations.lookup 100 = none ∧
        after.controlReturns = state.controlReturns ++ frames ∧
        after.pools.credits + returnable frames.sum = state.pools.credits + journal.taken 100 := by
  obtain ⟨⟨state, journal⟩, reached, seen⟩ := exists_of_execute
    (show (execute Port.small.recording always
        [.enqueued 100 (1, 4), .enqueued 200 (1, 3), .transmitted 200]
        (⟨⟨fun _ => 10, 0, fun vl => if vl = 1 then 1 else 0⟩, ∅, []⟩, .start)).map
      (fun pair => (pair.1.pools.crdTxfree 1, (pair.2.taken 100).1 1, (pair.2.taken 100).2.2 1)) =
      some (3, 4, 1) by decide +kernel)
  simp only [Prod.mk.injEq] at seen
  exact ⟨state, journal, reached, seen.1, seen.2.1, seen.2.2,
    (egress_reservations_conserve Port.small_documented reached).2.2.2.2.2 100⟩

end Udma.Cbfc
