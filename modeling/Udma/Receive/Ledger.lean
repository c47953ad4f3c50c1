import Udma.Receive.Queue

/-!
# What a step does to a receive

A receive in progress is either in the hands of the engine, or waits for one callback:
of the host, or of the completion engine.  `Ledger` shows the receives in progress with
all that decides about them, and `Move` lists what can happen to them.
-/

namespace Udma.Receive.Queue

open Abi (Bytes Sge load32 load64 sgeBytes)
open Collections Transition
open Cq (Cqe Map)

/-- How far a receive has come. -/
inductive Stage where
  | opening
  | asking (jfrId : Nat)
  | choosing (jfrId : Nat)
  /-- The elements before `sge` have been written; the next one is looked at. -/
  | scattering (jfrId rqe sge copied : Nat)
  | reading (jfrId rqe sge copied : Nat)
  | writing (jfrId rqe sge copied chunk : Nat)
  | publishing (publishing : Publishing)
  deriving DecidableEq, Repr

structure Reception where
  arrival : Arrival
  stage : Stage
  deriving DecidableEq, Repr

def Callback.reception : Callback → Option Reception
  | .producerRead arrival jfrId => some ⟨arrival, .asking jfrId⟩
  | .indexRead arrival jfrId => some ⟨arrival, .choosing jfrId⟩
  | .sgeRead arrival jfrId rqe sge copied => some ⟨arrival, .reading jfrId rqe sge copied⟩
  | .payloadWritten arrival jfrId rqe sge copied chunk =>
      some ⟨arrival, .writing jfrId rqe sge copied chunk⟩
  | .contextRead _ | .descriptorWritten => none

def Publishing.reception (publishing : Publishing) : Reception :=
  ⟨publishing.arrival, .publishing publishing⟩

/-- The receives that wait for a callback. -/
def State.held (state : State) : List Reception :=
  state.outstanding.filterMap Callback.reception ++ state.awaiting.map Publishing.reception

/-- The receives in progress, and what decides about them. -/
structure Ledger where
  frames : List Arrival
  receptions : List Reception
  busy : Bool
  activeJfr : Option Nat
  jfrs : Map Jfr
  completion : Cq.State
  arrivals : Nat
  trace : List Observation

/-- The ledger of a state, with the receives in the hands of the engine. -/
def State.ledger (state : State) (hand : List Reception) : Ledger where
  frames := state.receiveFrames
  receptions := hand ++ state.held
  busy := state.receiveBusy
  activeJfr := state.activeReceiveJfr
  jfrs := state.jfrs
  completion := state.completion
  arrivals := state.arrivals
  trace := state.trace

namespace Ledger

/-- The next DMA request of the only receive. -/
def request (ledger : Ledger) (reception : Reception) (observation : Observation) : Ledger :=
  { ledger with
    receptions := [reception]
    trace := ledger.trace ++ [observation] }

/-- The only receive has ended. -/
def conclude (ledger : Ledger) (number : Nat) (ok : Bool) : Ledger :=
  { ledger with
    receptions := []
    busy := false
    activeJfr := none
    trace := ledger.trace ++ [.ended number ok] }

/-- The entry at the consumer is used up. -/
def consume (ledger : Ledger) (number jfrId : Nat) : Ledger :=
  match ledger.jfrs.lookup jfrId with
  | none => ledger
  | some jfr =>
      { ledger with
        jfrs := ledger.jfrs.insert jfrId { jfr with consumer := jfr.consumer + 1 }
        trace := ledger.trace ++ [.consumed number jfrId] }

/-- What can happen to the receives. -/
inductive Move (config : Config) (ledger : Ledger) : Ledger → Prop where
  | aside (command : Command) (status : Nat) :
      Move config ledger { ledger with trace := ledger.trace ++ [.writeBack command status] }
  | arrived (frame : Frame) :
      Move config ledger
        { ledger with
          frames := ledger.frames ++ [⟨ledger.arrivals, frame⟩]
          arrivals := ledger.arrivals + 1
          trace := ledger.trace ++ [.arrived ⟨ledger.arrivals, frame⟩] }
  | started {arrival : Arrival} {rest : List Arrival} :
      ledger.frames = arrival :: rest → ledger.busy = false → ledger.receptions = [] →
      Move config ledger
        { ledger with
          frames := rest
          receptions := [⟨arrival, .opening⟩]
          busy := true
          trace := ledger.trace ++ [.started arrival.number] }
  | opened {arrival : Arrival} {jfrId : Nat} {jfr : Jfr} :
      ledger.receptions = [⟨arrival, .opening⟩] → ledger.jfrs.lookup jfrId = some jfr →
      Move config ledger
        { ledger.request ⟨arrival, .asking jfrId⟩
            (.dmaRead arrival.number jfr.token jfr.producerIova 4) with
          activeJfr := some jfrId }
  | asked {arrival : Arrival} {jfrId : Nat} {jfr : Jfr} :
      ledger.receptions = [⟨arrival, .asking jfrId⟩] → ledger.jfrs.lookup jfrId = some jfr →
      Move config ledger
        (ledger.request ⟨arrival, .choosing jfrId⟩
          (.dmaRead arrival.number jfr.token jfr.indexAddress 4))
  | chosen {arrival : Arrival} {jfrId rqe : Nat} {jfr : Jfr} :
      ledger.receptions = [⟨arrival, .choosing jfrId⟩] → ledger.jfrs.lookup jfrId = some jfr →
      rqe < jfr.depth →
      Move config ledger { ledger with receptions := [⟨arrival, .scattering jfrId rqe 0 0⟩] }
  | fetched {arrival : Arrival} {jfrId rqe sge copied : Nat} {jfr : Jfr} :
      ledger.receptions = [⟨arrival, .scattering jfrId rqe sge copied⟩] →
      ledger.jfrs.lookup jfrId = some jfr → sge < jfr.maxSge →
      Move config ledger
        (ledger.request ⟨arrival, .reading jfrId rqe sge copied⟩
          (.dmaRead arrival.number jfr.token (jfr.sgeAddress rqe sge) sgeBytes))
  | scattered {arrival : Arrival} {jfrId rqe sge copied chunk : Nat} {element : Sge} {jfr : Jfr} :
      ledger.receptions = [⟨arrival, .reading jfrId rqe sge copied⟩] →
      ledger.jfrs.lookup jfrId = some jfr →
      chunk = chunkSize arrival.frame element copied → chunk ≠ 0 → element.address ≠ 0 →
      Move config ledger
        (ledger.request ⟨arrival, .writing jfrId rqe sge copied chunk⟩
          (.dmaWrite arrival.number (jfr.sgeAddress rqe sge) element jfr.payloadToken
            ((arrival.frame.bytes.drop copied).take chunk)))
  | written {arrival : Arrival} {jfrId rqe sge copied chunk : Nat} :
      ledger.receptions = [⟨arrival, .writing jfrId rqe sge copied chunk⟩] →
      Move config ledger
        (ledger.request
          ⟨arrival, .scattering jfrId rqe (sge + 1) ((copied + chunk) % 2 ^ 32)⟩
          (.payloadWritten arrival.number))
  | published {publishing : Publishing} {sge : Nat} {jfr : Jfr} {jetty : Jetty} :
      ledger.receptions = [⟨publishing.arrival, .scattering publishing.jfrId publishing.rqe sge
        publishing.arrival.frame.bytes.length⟩] →
      publishing.call = ledger.completion.calls →
      publishing.cqe = receiveCqe publishing.arrival.frame publishing.rqe →
      ledger.jfrs.lookup publishing.jfrId = some jfr → publishing.jfcId = receiveJfc jetty jfr →
      ledger.completion.atBoundary = true →
      Move config ledger
        { ledger.request publishing.reception (.publishing publishing) with
          completion := Cq.writeCqe ledger.completion publishing.jfcId publishing.cqe }
  | failed {reception : Reception} :
      ledger.receptions = [reception] →
      (∀ publishing : Publishing, reception ≠ publishing.reception) →
      Move config ledger (ledger.conclude reception.arrival.number false)
  | concluded {publishing : Publishing} {ok : Bool} {completion : Cq.State} :
      ledger.receptions = [publishing.reception] →
      Cq.step config.completion ledger.completion .run = some completion →
      finishedCall ledger.completion .run = some (publishing.call, ok) →
      Move config ledger
        (({ if ok then ledger.consume publishing.arrival.number publishing.jfrId else ledger with
            completion := completion }).conclude publishing.arrival.number ok)
  | progressed {event : Cq.Event} {completion : Cq.State} :
      Cq.step config.completion ledger.completion event = some completion →
      (∀ call ok, ∀ publishing : Publishing,
        finishedCall ledger.completion event = some (call, ok) →
        publishing.reception ∈ ledger.receptions → publishing.call ≠ call) →
      Move config ledger { ledger with completion := completion }
  | destroyed (kept : Arrival → Bool) (jfrId : Option Nat) :
      (∀ id ∈ jfrId, ledger.activeJfr ≠ some id) →
      Move config ledger
        { ledger with
          frames := ledger.frames.filter kept
          jfrs := match jfrId with
            | none => ledger.jfrs
            | some id => ledger.jfrs.erase id
          trace := ledger.trace ++
            (ledger.frames.filter fun arrival => !kept arrival).map fun arrival =>
              .purged arrival.number }
  | installed {jfrId : Nat} {jfr : Jfr} :
      ledger.jfrs.lookup jfrId = none → jfr.consumer = 0 →
      Move config ledger
        { ledger with
          jfrs := ledger.jfrs.insert jfrId jfr
          trace := ledger.trace ++ [.installed jfrId jfr] }

/-- A sequence of moves. -/
def Moves (config : Config) : Ledger → Ledger → Prop := Relation.ReflTransGen (Move config)

end Ledger

open Ledger (Move Moves)

variable {config : Config} {state after : State} {arrival : Arrival} {stage : Stage}

theorem moves_of_eq {ledger other : Ledger} (same : other = ledger) :
    Moves config ledger other := same ▸ .refl

/-! ## The ledger behind each change of the state -/

@[simp]
theorem State.ledger_push (state : State) (tasks : List Task) (hand : List Reception) :
    (state.push tasks).ledger hand = state.ledger hand := rfl

@[simp]
theorem State.held_call (state : State) (callback : Callback) (alone : state.held = []) :
    (state.call callback).held = callback.reception.toList := by
  simp only [State.held, List.append_eq_nil_iff] at alone
  rw [State.held, State.call_outstanding, List.filterMap_append, alone.1, filterMap_singleton]
  simpa [State.call] using alone.2

/-- A receive goes from the hands of the engine to those of the host. -/
theorem State.ledger_call (hand : List Reception) (alone : state.held = []) {callback : Callback} {reception : Reception}
    (own : callback.reception = some reception) (observation : Observation) :
    ((state.emit [observation]).call callback).ledger [] =
      (state.ledger hand).request reception observation := by
  have held := State.held_call (state.emit [observation]) callback alone
  rw [own] at held
  simp only [State.ledger, held]
  rfl

theorem State.ledger_conclude (hand : List Reception) (alone : state.held = [])
    (arrival : Arrival) (ok : Bool) :
    (endReceive state arrival ok).ledger [] = (state.ledger hand).conclude arrival.number ok := by
  have held : (endReceive state arrival ok).held = [] := alone
  simp only [State.ledger, held]
  rfl

/-- A receive goes from the hands of the engine to the completion engine. -/
theorem State.ledger_publish (hand : List Reception) (alone : state.held = [])
    (publishing : Publishing) :
    (publish state publishing).ledger [] =
      { (state.ledger hand).request publishing.reception (.publishing publishing) with
        completion := Cq.writeCqe state.completion publishing.jfcId publishing.cqe } := by
  have held : (publish state publishing).held = [publishing.reception] := by
    simp only [State.held, List.append_eq_nil_iff] at alone
    simp only [State.held, publish, State.push_outstanding, State.emit_outstanding,
      State.push_awaiting, State.emit_awaiting, List.map_append, alone]
    rfl
  simp only [State.ledger, held]
  rfl

theorem State.receptions_hand (alone : state.held = []) (reception : Reception) :
    (state.ledger [reception]).receptions = [reception] := by simp [State.ledger, alone]

theorem State.ledger_hand (alone : state.held = []) (hand other : List Reception) :
    state.ledger hand = { state.ledger other with receptions := hand } := by
  simp [State.ledger, alone]

theorem endReceive_moves (alone : state.held = [])
    (unpublished : ∀ publishing : Publishing, (⟨arrival, stage⟩ : Reception) ≠ publishing.reception) :
    Moves config (state.ledger [⟨arrival, stage⟩]) ((endReceive state arrival false).ledger []) := by
  rw [State.ledger_conclude [⟨arrival, stage⟩] alone]
  exact .single (.failed (State.receptions_hand alone _) unpublished)

/-! ## The functions of the receive engine -/

theorem finishReceive_moves (alone : state.held = []) (idle : state.completion.atBoundary = true)
    {jfrId rqe sge : Nat} :
    Moves config
      (state.ledger [⟨arrival, .scattering jfrId rqe sge arrival.frame.bytes.length⟩])
      ((finishReceive state arrival jfrId rqe).ledger []) := by
  unfold finishReceive
  split
  next jfr jetty found _ =>
    rw [State.ledger_publish [⟨arrival, .scattering jfrId rqe sge arrival.frame.bytes.length⟩] alone]
    exact .single (.published (State.receptions_hand alone _) rfl rfl found rfl idle)
  next => exact endReceive_moves alone (by simp [Publishing.reception])

theorem receiveSge_moves (alone : state.held = []) (idle : state.completion.atBoundary = true)
    {jfrId rqe sge copied : Nat} :
    Moves config (state.ledger [⟨arrival, .scattering jfrId rqe sge copied⟩])
      ((receiveSge state arrival jfrId rqe sge copied).ledger []) := by
  unfold receiveSge
  split
  next => exact endReceive_moves alone (by simp [Publishing.reception])
  next jfr found =>
    split
    next complete =>
      subst complete
      exact finishReceive_moves alone idle
    next =>
      split
      next => exact endReceive_moves alone (by simp [Publishing.reception])
      next room =>
        rw [State.ledger_call [⟨arrival, .scattering jfrId rqe sge copied⟩] alone rfl]
        exact .single (.fetched (State.receptions_hand alone _) found (by omega))

theorem receiveSend_moves (alone : state.held = []) :
    Moves config (state.ledger [⟨arrival, .opening⟩]) ((receiveSend state arrival).ledger []) := by
  have failed : Moves config (state.ledger [⟨arrival, .opening⟩])
      ((endReceive state arrival false).ledger []) :=
    endReceive_moves alone (by simp [Publishing.reception])
  unfold receiveSend
  simp only
  split
  next => exact failed
  next jetty _ =>
    split
    next => exact failed
    next =>
      split
      next => exact failed
      next jfr found =>
        split
        next => exact failed
        next =>
          split
          next => exact failed
          next =>
            let opened : State :=
              { state with
                activeReceiveJfr := some jetty.receiveQueue
                activeReceiveJetty := some arrival.frame.destinationJetty }
            have still : opened.held = [] := alone
            have called := State.ledger_call [⟨arrival, .opening⟩] still
              (show Callback.reception (.producerRead arrival jetty.receiveQueue) = some _ from rfl)
              (.dmaRead arrival.number jfr.token jfr.producerIova 4)
            rw [called]
            exact .single (.opened (State.receptions_hand alone _) found)

theorem processReceiveQueue_moves (idle : state.receiveBusy = false → state.held = []) :
    Moves config (state.ledger []) ((processReceiveQueue state).ledger []) := by
  unfold processReceiveQueue
  split
  next => exact .refl
  next arrival rest queued =>
    split
    next => exact .refl
    next free =>
      have free : state.receiveBusy = false := by simpa using free
      have alone := idle free
      have started : Moves config (state.ledger [])
          (({ state with
              receiveBusy := true
              receiveFrames := rest }.emit [.started arrival.number]).ledger
            [⟨arrival, .opening⟩]) := by
        have none : (state.ledger []).receptions = [] := by simpa [State.ledger] using alone
        have moved : Move config (state.ledger []) _ := .started queued free none
        have kept : ({ state with
            receiveBusy := true
            receiveFrames := rest }.emit [.started arrival.number]).held = [] := alone
        rw [State.ledger_hand kept _ []]
        exact .single moved
      exact started.trans (receiveSend_moves alone)

theorem producerRead_moves (alone : state.held = []) {jfrId : Nat} (ok : Bool) (bytes : Bytes) :
    Moves config (state.ledger [⟨arrival, .asking jfrId⟩])
      ((producerRead state arrival jfrId ok bytes).ledger []) := by
  have failed : Moves config (state.ledger [⟨arrival, .asking jfrId⟩])
      ((endReceive state arrival false).ledger []) :=
    endReceive_moves alone (by simp [Publishing.reception])
  unfold producerRead
  split
  next => exact failed
  next jfr found =>
    split
    next =>
      split
      next => exact failed
      next =>
        rw [State.ledger_call [⟨arrival, .asking jfrId⟩] alone rfl]
        exact .single (.asked (State.receptions_hand alone _) found)
    next => exact failed

/-- The next part of a receive that stays in the hands of the engine. -/
theorem moves_of_hand {reception next : Reception} (alone : state.held = [])
    (move : Move config (state.ledger [reception])
      { state.ledger [reception] with receptions := [next] })
    (moves : Moves config (state.ledger [next]) (after.ledger [])) :
    Moves config (state.ledger [reception]) (after.ledger []) := by
  rw [State.ledger_hand alone [next] [reception]] at moves
  exact (Relation.ReflTransGen.single move).trans moves

theorem indexRead_moves (alone : state.held = []) (idle : state.completion.atBoundary = true)
    {jfrId : Nat} (ok : Bool) (bytes : Bytes) :
    Moves config (state.ledger [⟨arrival, .choosing jfrId⟩])
      ((indexRead state arrival jfrId ok bytes).ledger []) := by
  have failed : Moves config (state.ledger [⟨arrival, .choosing jfrId⟩])
      ((endReceive state arrival false).ledger []) :=
    endReceive_moves alone (by simp [Publishing.reception])
  unfold indexRead
  split
  next => exact failed
  next jfr found =>
    split
    next =>
      split
      next => exact failed
      next within =>
        exact moves_of_hand alone
          (.chosen (State.receptions_hand alone _) found (by omega)) (receiveSge_moves alone idle)
    next => exact failed

theorem sgeRead_moves (alone : state.held = []) {jfrId rqe sge copied : Nat} (ok : Bool)
    (bytes : Bytes) :
    Moves config (state.ledger [⟨arrival, .reading jfrId rqe sge copied⟩])
      ((sgeRead state arrival jfrId rqe sge copied ok bytes).ledger []) := by
  have failed : Moves config (state.ledger [⟨arrival, .reading jfrId rqe sge copied⟩])
      ((endReceive state arrival false).ledger []) :=
    endReceive_moves alone (by simp [Publishing.reception])
  unfold sgeRead
  split
  next =>
    simp only
    split
    next => exact failed
    next useful =>
      push Not at useful
      split
      next => exact failed
      next jfr found =>
        rw [State.ledger_call [⟨arrival, .reading jfrId rqe sge copied⟩] alone rfl]
        exact .single (.scattered (State.receptions_hand alone _) found rfl useful.1 useful.2)
  next => exact failed

theorem payloadWritten_moves (alone : state.held = []) (idle : state.completion.atBoundary = true)
    {jfrId rqe sge copied chunk : Nat} (ok : Bool) :
    Moves config (state.ledger [⟨arrival, .writing jfrId rqe sge copied chunk⟩])
      ((payloadWritten state arrival jfrId rqe sge copied chunk ok).ledger []) := by
  unfold payloadWritten
  split
  next =>
    have same : (state.emit [.payloadWritten arrival.number]).held = [] := alone
    have written : Move config (state.ledger [⟨arrival, .writing jfrId rqe sge copied chunk⟩]) _ :=
      .written (State.receptions_hand alone _)
    have moves : Moves config _ ((receiveSge (state.emit [.payloadWritten arrival.number]) arrival
        jfrId rqe (sge + 1) ((copied + chunk) % 2 ^ 32)).ledger []) := receiveSge_moves same idle
    rw [State.ledger_hand same _ []] at moves
    exact (Relation.ReflTransGen.single written).trans moves
  next => exact endReceive_moves alone (by simp [Publishing.reception])

theorem receive_moves (idle : state.receiveBusy = false → state.held = []) (frame : Frame) :
    Moves config (state.ledger []) ((receive state frame).ledger []) :=
  (Relation.ReflTransGen.single (.arrived frame)).trans (processReceiveQueue_moves idle)

/-! ## Commands -/

/-- Callbacks of a mailbox command. -/
def Callback.mailbox : Callback → Bool
  | .contextRead _ | .descriptorWritten => true
  | _ => false

def State.mailboxCalls (state : State) : List Callback := state.outstanding.filter Callback.mailbox

/-- One command is carried out at a time, and a create command finds no context. -/
structure State.Filed (state : State) : Prop where
  single : state.mailboxCalls.length + state.pendingQueueDestroy.isSome.toNat =
    state.ubaseBusy.toNat
  vacant : ∀ command, .contextRead command ∈ state.outstanding → command.opcode = .createJfr →
    state.jfrs.lookup command.tag = none

/-- A part of a step that concerns no command. -/
structure Beside (state after : State) : Prop where
  calls : after.mailboxCalls = state.mailboxCalls
  pending : after.pendingQueueDestroy = state.pendingQueueDestroy
  ubaseBusy : after.ubaseBusy = state.ubaseBusy
  vacant : ∀ id, state.jfrs.lookup id = none → after.jfrs.lookup id = none

namespace Beside

variable {changed : State}

theorem refl (state : State) : Beside state state := ⟨rfl, rfl, rfl, fun _ => id⟩

theorem trans (first : Beside state changed) (second : Beside changed after) :
    Beside state after :=
  ⟨second.calls.trans first.calls, second.pending.trans first.pending,
    second.ubaseBusy.trans first.ubaseBusy, fun id gone => second.vacant id (first.vacant id gone)⟩

theorem of_eq (outstanding : after.outstanding = state.outstanding)
    (pending : after.pendingQueueDestroy = state.pendingQueueDestroy)
    (ubaseBusy : after.ubaseBusy = state.ubaseBusy) (jfrs : after.jfrs = state.jfrs) :
    Beside state after :=
  ⟨by rw [State.mailboxCalls, outstanding, State.mailboxCalls], pending, ubaseBusy,
    fun _ gone => jfrs ▸ gone⟩

theorem then_call (beside : Beside state changed) {callback : Callback}
    (other : callback.mailbox = false) (observations : List Observation) :
    Beside state ((changed.emit observations).call callback) where
  calls := by
    have skipped : [callback].filter Callback.mailbox = [] := by simp [other]
    rw [State.mailboxCalls, State.call_outstanding, List.filter_append, skipped, List.append_nil]
    exact beside.calls
  pending := beside.pending
  ubaseBusy := beside.ubaseBusy
  vacant := beside.vacant

theorem then_end (beside : Beside state changed) (arrival : Arrival) (ok : Bool) :
    Beside state (endReceive changed arrival ok) :=
  ⟨beside.calls, beside.pending, beside.ubaseBusy, beside.vacant⟩

theorem filed (beside : Beside state after) (filed : state.Filed) : after.Filed where
  single := by rw [beside.calls, beside.pending, beside.ubaseBusy, filed.single]
  vacant := by
    intro command held isCreate
    have own : .contextRead command ∈ after.mailboxCalls :=
      List.mem_filter.mpr ⟨held, rfl⟩
    rw [beside.calls] at own
    exact beside.vacant _ (filed.vacant command (List.mem_filter.mp own).1 isCreate)

end Beside

theorem receiveSge_beside (state : State) (arrival : Arrival) (jfrId rqe sge copied : Nat) :
    Beside state (receiveSge state arrival jfrId rqe sge copied) := by
  have same := Beside.refl state
  unfold receiveSge
  split
  next => exact same.then_end arrival false
  next =>
    split
    next =>
      unfold finishReceive
      split
      next => exact .of_eq rfl rfl rfl rfl
      next => exact same.then_end arrival false
    next =>
      split
      next => exact same.then_end arrival false
      next => exact same.then_call rfl _

theorem receiveSend_beside (state : State) (arrival : Arrival) :
    Beside state (receiveSend state arrival) := by
  have failed : Beside state (endReceive state arrival false) :=
    (Beside.refl state).then_end arrival false
  unfold receiveSend
  simp only
  split
  next => exact failed
  next =>
    split
    next => exact failed
    next =>
      split
      next => exact failed
      next =>
        split
        next => exact failed
        next =>
          split
          next => exact failed
          next =>
            refine Beside.then_call ?_ rfl _
            exact .of_eq rfl rfl rfl rfl

theorem processReceiveQueue_beside (state : State) : Beside state (processReceiveQueue state) := by
  unfold processReceiveQueue
  split
  next => exact .refl state
  next =>
    split
    next => exact .refl state
    next =>
      refine Beside.trans ?_ (receiveSend_beside _ _)
      exact .of_eq rfl rfl rfl rfl

theorem cqeWritten_beside (state : State) (publishing : Publishing) (ok : Bool) :
    Beside state (cqeWritten state publishing ok) := by
  refine Beside.then_end ?_ publishing.arrival ok
  split
  next =>
    unfold consume
    split
    next => exact .refl state
    next jfr found =>
      refine ⟨rfl, rfl, rfl, fun id gone => ?_⟩
      have other : id ≠ publishing.jfrId := by
        rintro rfl
        rw [found] at gone
        cases gone
      simpa [AList.lookup_insert_ne other] using gone
  next => exact .refl state

/-- A callback of the receive engine. -/
theorem runCallback_beside {callback : Callback} (other : callback.mailbox = false) (ok : Bool)
    (bytes : Bytes) : Beside state (runCallback state ok bytes callback) := by
  have same := Beside.refl state
  have failed (arrival : Arrival) : Beside state (endReceive state arrival false) :=
    same.then_end arrival false
  cases callback with
  | producerRead arrival jfrId =>
      simp only [runCallback, producerRead]
      split
      next => exact failed arrival
      next =>
        split
        next =>
          split
          next => exact failed arrival
          next => exact same.then_call rfl _
        next => exact failed arrival
  | indexRead arrival jfrId =>
      simp only [runCallback, indexRead]
      split
      next => exact failed arrival
      next =>
        split
        next =>
          split
          next => exact failed arrival
          next => exact receiveSge_beside _ _ _ _ _ _
        next => exact failed arrival
  | sgeRead arrival jfrId rqe sge copied =>
      simp only [runCallback, sgeRead]
      split
      next =>
        split
        next => exact failed arrival
        next =>
          split
          next => exact failed arrival
          next => exact same.then_call rfl _
      next => exact failed arrival
  | payloadWritten arrival jfrId rqe sge copied chunk =>
      simp only [runCallback, payloadWritten]
      split
      next =>
        refine Beside.trans ?_ (receiveSge_beside _ _ _ _ _ _)
        exact .of_eq rfl rfl rfl rfl
      next => exact failed arrival
  | contextRead command => simp [Callback.mailbox] at other
  | descriptorWritten => simp [Callback.mailbox] at other

/-- The next host call of a command. -/
structure Issued (state after : State) : Prop where
  calls : after.mailboxCalls.length = state.mailboxCalls.length + 1
  pending : after.pendingQueueDestroy = state.pendingQueueDestroy
  ubaseBusy : after.ubaseBusy = state.ubaseBusy
  vacant : ∀ command, .contextRead command ∈ after.outstanding → command.opcode = .createJfr →
    .contextRead command ∈ state.outstanding ∨ after.jfrs.lookup command.tag = none

theorem finishUbaseDescriptor_issued {changed : State} (command : Command) (status : Nat)
    (outstanding : changed.outstanding = state.outstanding)
    (pending : changed.pendingQueueDestroy = state.pendingQueueDestroy)
    (ubaseBusy : changed.ubaseBusy = state.ubaseBusy) :
    Issued state (finishUbaseDescriptor changed command status) where
  calls := by
    have own : [Callback.descriptorWritten].filter Callback.mailbox =
        [.descriptorWritten] := rfl
    simp [State.mailboxCalls, finishUbaseDescriptor, outstanding, List.filter_append, own]
  pending := pending
  ubaseBusy := ubaseBusy
  vacant := by
    intro other held _
    left
    simpa [finishUbaseDescriptor, outstanding] using held

theorem applyUbaseMailbox_issued (state : State) (command : Command) (context : Bytes) :
    Issued state (applyUbaseMailbox state command context) := by
  unfold applyUbaseMailbox
  split
  next => split <;> exact finishUbaseDescriptor_issued command _ rfl rfl rfl
  next => split <;> exact finishUbaseDescriptor_issued command _ rfl rfl rfl
  next => exact finishUbaseDescriptor_issued command 0 rfl rfl rfl
  next => exact finishUbaseDescriptor_issued command 0 rfl rfl rfl

/-- A command is being carried out. -/
structure State.Clear (state : State) : Prop where
  calls : state.mailboxCalls = []
  pending : state.pendingQueueDestroy = none
  ubaseBusy : state.ubaseBusy = true

theorem State.Clear.unread (clear : state.Clear) (command : Command) :
    .contextRead command ∉ state.outstanding := by
  intro held
  have own : .contextRead command ∈ state.mailboxCalls := List.mem_filter.mpr ⟨held, rfl⟩
  simp [clear.calls] at own

theorem Issued.filed (issued : Issued state after) (clear : state.Clear) : after.Filed where
  single := by
    rw [issued.calls, issued.pending, issued.ubaseBusy, clear.calls, clear.pending,
      clear.ubaseBusy]
    rfl
  vacant := fun command held isCreate =>
    (issued.vacant command held isCreate).resolve_left (clear.unread command)

theorem handleUbaseMailbox_filed (clear : state.Clear) (command : Command) :
    (handleUbaseMailbox config state command).Filed := by
  have rejected (status : Nat) : (finishUbaseDescriptor state command status).Filed :=
    (finishUbaseDescriptor_issued command status rfl rfl rfl).filed clear
  have reading (vacant : command.opcode = .createJfr → state.jfrs.lookup command.tag = none) :
      (state.call (.contextRead command)).Filed := by
    have issued : Issued state (state.call (.contextRead command)) := by
      refine ⟨?_, rfl, rfl, ?_⟩
      · have own : [Callback.contextRead command].filter Callback.mailbox =
            [.contextRead command] := rfl
        simp [State.mailboxCalls, List.filter_append, own]
      · intro other held isCreate
        rcases List.mem_append.mp held with old | new
        · exact .inl old
        · obtain rfl : other = command := by simpa using new
          exact .inr (vacant isCreate)
    exact issued.filed clear
  have destroying : (if state.resourceQueueBusy command.opcode command.tag then
        { state with
          drainingQueue := some (command.opcode, command.tag)
          pendingQueueDestroy := some command }
      else applyUbaseMailbox (destroyQueue state command) command []).Filed := by
    split
    next =>
      constructor
      · have calls : state.mailboxCalls = [] := clear.calls
        have busy : state.ubaseBusy = true := clear.ubaseBusy
        change state.mailboxCalls.length + 1 = state.ubaseBusy.toNat
        simp [calls, busy]
      · exact fun other held => absurd held (clear.unread other)
    next =>
      refine (applyUbaseMailbox_issued (destroyQueue state command) command []).filed ?_
      exact ⟨clear.calls, clear.pending, clear.ubaseBusy⟩
  unfold handleUbaseMailbox
  split
  next => exact destroying
  next => exact destroying
  next isCreate =>
    split
    next => exact rejected 22
    next =>
      split
      next => exact rejected 17
      next free => exact reading fun _ => by simpa using free
  next isCreate =>
    split
    next => exact rejected 22
    next =>
      split
      next => exact rejected 17
      next =>
        split
        next => exact rejected 28
        next => exact reading fun other => by simp [isCreate] at other

namespace State.Filed

theorem busy_of_call (filed : state.Filed) (busy : 0 < state.mailboxCalls.length) :
    state.mailboxCalls.length = 1 ∧ state.pendingQueueDestroy = none ∧ state.ubaseBusy = true := by
  have single := filed.single
  have limit := Bool.toNat_le state.ubaseBusy
  have unpended : state.pendingQueueDestroy.isSome.toNat = 0 := by omega
  refine ⟨by omega, ?_, ?_⟩
  · cases pending : state.pendingQueueDestroy with
    | none => rfl
    | some command => simp [pending] at unpended
  · cases busy : state.ubaseBusy with
    | true => rfl
    | false =>
        rw [busy] at single
        simp only [Bool.toNat_false] at single
        omega

theorem clear_of_pending (filed : state.Filed) {command : Command}
    (pending : state.pendingQueueDestroy = some command) :
    state.mailboxCalls = [] ∧ state.ubaseBusy = true := by
  have single := filed.single
  have limit := Bool.toNat_le state.ubaseBusy
  rw [pending] at single
  simp only [Option.isSome_some, Bool.toNat_true] at single
  refine ⟨List.length_eq_zero_iff.mp (by omega), ?_⟩
  cases busy : state.ubaseBusy with
  | true => rfl
  | false =>
      rw [busy] at single
      simp only [Bool.toNat_false] at single
      omega

theorem maybeCompleteQueueDestroy_filed (filed : state.Filed) (config : Config) :
    (maybeCompleteQueueDestroy config state).Filed := by
  unfold maybeCompleteQueueDestroy
  split
  next => exact filed
  next command pending =>
    split
    next => exact filed
    next =>
      obtain ⟨calls, busy⟩ := filed.clear_of_pending pending
      have clear : ({ state with pendingQueueDestroy := none, drainingQueue := none }).Clear :=
        ⟨calls, rfl, busy⟩
      exact handleUbaseMailbox_filed clear command

theorem fire (filed : state.Filed) {index : Nat} {callback : Callback}
    (found : state.outstanding[index]? = some callback) (ok : Bool) (bytes : Bytes) :
    (runCallback { state with outstanding := state.outstanding.eraseIdx index } ok bytes
      callback).Filed := by
  by_cases mailbox : callback.mailbox = true
  · have held : callback ∈ state.mailboxCalls :=
      List.mem_filter.mpr ⟨List.mem_of_getElem? found, mailbox⟩
    obtain ⟨single, pending, busy⟩ := filed.busy_of_call (List.length_pos_of_mem held)
    have none : (state.outstanding.eraseIdx index).filter Callback.mailbox = [] := by
      obtain ⟨earlier, later, shape, erased⟩ := split_eraseIdx found
      rw [State.mailboxCalls, shape, List.filter_append, List.filter_cons_of_pos mailbox,
        List.length_append, List.length_cons] at single
      rw [erased, List.filter_append, List.append_eq_nil_iff]
      exact ⟨List.length_eq_zero_iff.mp (by omega), List.length_eq_zero_iff.mp (by omega)⟩
    have clear : ({ state with
        outstanding := state.outstanding.eraseIdx index }).Clear := ⟨none, pending, busy⟩
    cases callback with
    | contextRead command =>
        simp only [runCallback, contextRead]
        split
        next => exact (applyUbaseMailbox_issued _ command bytes).filed clear
        next => exact (finishUbaseDescriptor_issued command 5 rfl rfl rfl).filed clear
    | descriptorWritten =>
        constructor
        · change ((state.outstanding.eraseIdx index).filter Callback.mailbox).length +
            state.pendingQueueDestroy.isSome.toNat = 0
          simp [none, pending]
        · exact fun other held => absurd held (clear.unread other)
    | _ => simp [Callback.mailbox] at mailbox
  · have other : callback.mailbox = false := by simpa using mailbox
    refine Beside.filed ?_ filed
    refine Beside.trans ?_ (runCallback_beside other ok bytes)
    exact ⟨filter_eraseIdx found other, rfl, rfl, fun _ => id⟩

theorem completionStep (filed : state.Filed) {event : Cq.Event}
    (taken : completionStep config state event = some after) : after.Filed := by
  unfold Queue.completionStep at taken
  obtain ⟨completion, _, rfl⟩ := Option.map_eq_some_iff.mp taken
  have moved : Beside state { state with
      completion := completion
      landed := state.landed ++ (state.completion.landing event).toList } := .of_eq rfl rfl rfl rfl
  simp only
  split
  next => exact moved.filed filed
  next =>
    split
    next => exact moved.filed filed
    next publishing _ =>
      refine Beside.filed ?_ filed
      refine Beside.trans ?_ (cqeWritten_beside _ publishing _)
      exact .of_eq rfl rfl rfl rfl

end State.Filed

theorem environment_filed {event : Event} (filed : state.Filed)
    (acted : environment config state event = some after) : after.Filed := by
  cases event with
  | run => simp [environment] at acted
  | fire index ok bytes =>
      obtain ⟨callback, found, rfl⟩ := Option.map_eq_some_iff.mp acted
      exact filed.fire found ok bytes
  | receive frame =>
      obtain rfl := Option.some.inj acted
      refine Beside.filed ?_ filed
      refine Beside.trans ?_ (processReceiveQueue_beside _)
      exact .of_eq rfl rfl rfl rfl
  | mailbox command =>
      simp only [environment] at acted
      split at acted
      next => simp at acted
      next idle =>
        obtain rfl := Option.some.inj acted
        have single := filed.single
        rw [Bool.not_eq_true] at idle
        rw [idle] at single
        simp only [Bool.toNat_false, Nat.add_eq_zero_iff, List.length_eq_zero_iff,
          Bool.toNat_eq_zero, Option.isSome_eq_false_iff, Option.isNone_iff_eq_none] at single
        have clear : ({ state with ubaseBusy := true }).Clear := ⟨single.1, single.2, rfl⟩
        exact handleUbaseMailbox_filed clear command
  | sendEngine busy =>
      obtain rfl := Option.some.inj acted
      exact ⟨filed.single, filed.vacant⟩
  | maybeCompleteQueueDestroy =>
      obtain rfl := Option.some.inj acted
      exact ⟨filed.single, filed.vacant⟩
  | completion event => exact filed.completionStep acted

/-- The two kinds of steps. -/
theorem step_cases {event : Event} (taken : step config state event = some after) :
    (∃ task rest, event = .run ∧ state.stack = task :: rest ∧
      state.completion.atBoundary = true ∧
      after = runTask config { state with stack := rest } task) ∨
    environment config state event = some after ∧ ((∃ inner, event = .completion inner) ∨
      state.completion.atBoundary = true) := by
  unfold step at taken
  split at taken
  next =>
    split at taken
    next => simp at taken
    next task rest shape =>
      split at taken
      next boundary =>
        exact .inl ⟨task, rest, rfl, shape, boundary, (Option.some.inj taken).symm⟩
      next => simp at taken
  next inner =>
    split at taken
    next => exact .inr ⟨taken, .inl ⟨inner, rfl⟩⟩
    next => simp at taken
  next =>
    split at taken
    next boundary =>
      rw [Bool.and_eq_true] at boundary
      exact .inr ⟨taken, .inr boundary.2⟩
    next => simp at taken

theorem filed_of_reaches {guard : State → Event → State → Prop}
    (reached : Reaches (step config) guard .initial state) : state.Filed := by
  refine reached.invariant ⟨rfl, by simp [State.initial]⟩ ?_
  intro before event after filed taken _
  rcases step_cases taken with ⟨task, rest, _, _, _, rfl⟩ | ⟨acted, _⟩
  · have popped : ({ before with stack := rest }).Filed := ⟨filed.single, filed.vacant⟩
    cases task with
    | external => exact popped
    | maybeCompleteQueueDestroy => exact popped.maybeCompleteQueueDestroy_filed config
    | processReceiveQueue => exact (processReceiveQueue_beside _).filed popped
  · exact environment_filed filed acted

/-! ## The moves of a command -/

theorem State.held_other (state : State) {callback : Callback} (other : callback.reception = none) :
    (state.call callback).held = state.held := by
  rw [State.held, State.call_outstanding, List.filterMap_append, filterMap_singleton, other]
  simp [State.held, State.call]

theorem finishUbaseDescriptor_moves (state : State) (command : Command) (status : Nat) :
    Moves config (state.ledger []) ((finishUbaseDescriptor state command status).ledger []) := by
  have held := State.held_other (state.emit [.writeBack command status])
    (show Callback.reception .descriptorWritten = none from rfl)
  refine .single ?_
  have same : (finishUbaseDescriptor state command status).ledger [] =
      { state.ledger [] with trace := state.trace ++ [.writeBack command status] } := by
    simp only [State.ledger, finishUbaseDescriptor, held]
    rfl
  rw [same]
  exact .aside command status

theorem applyUbaseMailbox_moves (command : Command) (context : Bytes)
    (vacant : command.opcode = .createJfr → context ≠ [] →
      state.jfrs.lookup command.tag = none) :
    Moves config (state.ledger []) ((applyUbaseMailbox state command context).ledger []) := by
  unfold applyUbaseMailbox
  split
  next isCreate =>
    split
    next => exact finishUbaseDescriptor_moves state command 22
    next jfr decoded =>
      have given : context ≠ [] := by
        rintro rfl
        simp [decodeJfr, Cq.word, load32, Abi.byteAt] at decoded
      have fresh : jfr.consumer = 0 := by
        unfold decodeJfr at decoded
        simp only [Option.ite_none_left_eq_some, Option.some.injEq] at decoded
        rw [← decoded.2]
      refine (Relation.ReflTransGen.single ?_).trans (finishUbaseDescriptor_moves _ command 0)
      exact .installed (vacant isCreate given) fresh
  next =>
    split
    next => exact finishUbaseDescriptor_moves state command 22
    next jetty _ =>
      exact finishUbaseDescriptor_moves
        { state with jetties := state.jetties.insert command.tag jetty } command 0
  next => exact finishUbaseDescriptor_moves state command 0
  next => exact finishUbaseDescriptor_moves state command 0

theorem destroyQueue_moves (command : Command)
    (idle : command.opcode = .destroyJfr → state.activeReceiveJfr ≠ some command.tag) :
    Moves config (state.ledger []) ((destroyQueue state command).ledger []) := by
  refine .single ?_
  by_cases jfr : command.opcode = .destroyJfr
  · have moved : Move config (state.ledger []) _ :=
      .destroyed (fun arrival => !state.belongs command arrival) (some command.tag)
        (by simpa [State.ledger] using idle jfr)
    convert moved using 1
    simp [State.ledger, destroyQueue, jfr, State.held]
  · have moved : Move config (state.ledger []) _ :=
      .destroyed (fun arrival => !state.belongs command arrival) none (by simp)
    convert moved using 1
    simp [State.ledger, destroyQueue, jfr, State.held]

theorem handleUbaseMailbox_moves (state : State) (command : Command) :
    Moves config (state.ledger []) ((handleUbaseMailbox config state command).ledger []) := by
  have destroying : Moves config (state.ledger [])
      ((if state.resourceQueueBusy command.opcode command.tag then
        { state with
          drainingQueue := some (command.opcode, command.tag)
          pendingQueueDestroy := some command }
      else applyUbaseMailbox (destroyQueue state command) command []).ledger []) := by
    split
    next => exact .refl
    next idle =>
      refine (destroyQueue_moves command fun isJfr => ?_).trans
        (applyUbaseMailbox_moves command [] fun _ given => absurd rfl given)
      simpa [State.resourceQueueBusy, isJfr] using idle
  have reading : Moves config (state.ledger []) ((state.call (.contextRead command)).ledger []) := by
    refine moves_of_eq ?_
    have held := state.held_other (show Callback.reception (.contextRead command) = none from rfl)
    simp only [State.ledger, held]
    rfl
  unfold handleUbaseMailbox
  split
  next => exact destroying
  next => exact destroying
  next =>
    split
    next => exact finishUbaseDescriptor_moves state command 22
    next =>
      split
      next => exact finishUbaseDescriptor_moves state command 17
      next => exact reading
  next =>
    split
    next => exact finishUbaseDescriptor_moves state command 22
    next =>
      split
      next => exact finishUbaseDescriptor_moves state command 17
      next =>
        split
        next => exact finishUbaseDescriptor_moves state command 28
        next => exact reading

theorem maybeCompleteQueueDestroy_moves (state : State) :
    Moves config (state.ledger []) ((maybeCompleteQueueDestroy config state).ledger []) := by
  unfold maybeCompleteQueueDestroy
  split
  next => exact .refl
  next command _ =>
    split
    next => exact .refl
    next =>
      let released : State := { state with pendingQueueDestroy := none, drainingQueue := none }
      exact handleUbaseMailbox_moves released command

/-! ## The moves of a step -/

/-- A receive is in progress when the engine is busy, and then only one. -/
def State.Single (state : State) : Prop := state.held.length = state.receiveBusy.toNat

theorem State.Single.idle (single : state.Single) (free : state.receiveBusy = false) :
    state.held = [] := by
  rw [State.Single, free] at single
  exact List.length_eq_zero_iff.mp single

theorem State.Single.le_one (single : state.Single) : state.held.length ≤ 1 :=
  single.trans_le (Bool.toNat_le _)

/-- The callback of a receive takes it into the hands of the engine. -/
theorem withdraw_ledger (single : state.Single) {index : Nat} {callback : Callback}
    {reception : Reception} (found : state.outstanding[index]? = some callback)
    (own : callback.reception = some reception) :
    ({ state with outstanding := state.outstanding.eraseIdx index } : State).held = [] ∧
      ({ state with outstanding := state.outstanding.eraseIdx index } : State).ledger [reception] =
        state.ledger [] := by
  obtain ⟨earlier, later, shape, left⟩ := filterMap_eraseIdx_some found own
  have short := single.le_one
  rw [State.held, shape] at short
  simp only [List.length_append, List.length_cons] at short
  have first : earlier = [] := List.length_eq_zero_iff.mp (by omega)
  have last : later = [] := List.length_eq_zero_iff.mp (by omega)
  have rest : state.awaiting.map Publishing.reception = [] :=
    List.length_eq_zero_iff.mp (by omega)
  subst first last
  have alone : ({ state with
      outstanding := state.outstanding.eraseIdx index } : State).held = [] := by
    simp [State.held, left, rest]
  refine ⟨alone, ?_⟩
  have held : state.held = [reception] := by simp [State.held, shape, rest]
  simp only [State.ledger, alone, held]
  rfl

theorem fire_moves (single : state.Single) (filed : state.Filed)
    (idle : state.completion.atBoundary = true) {index : Nat} {callback : Callback}
    (found : state.outstanding[index]? = some callback) (ok : Bool) (bytes : Bytes) :
    Moves config (state.ledger [])
      ((runCallback { state with outstanding := state.outstanding.eraseIdx index } ok bytes
        callback).ledger []) := by
  have other (none : callback.reception = none) :
      ({ state with outstanding := state.outstanding.eraseIdx index } : State).ledger [] =
        state.ledger [] := by
    simp only [State.ledger, State.held, filterMap_eraseIdx_none found none]
  cases callback with
  | producerRead arrival jfrId =>
      obtain ⟨alone, same⟩ := withdraw_ledger single found rfl
      rw [← same]
      exact producerRead_moves alone ok bytes
  | indexRead arrival jfrId =>
      obtain ⟨alone, same⟩ := withdraw_ledger single found rfl
      rw [← same]
      exact indexRead_moves alone idle ok bytes
  | sgeRead arrival jfrId rqe sge copied =>
      obtain ⟨alone, same⟩ := withdraw_ledger single found rfl
      rw [← same]
      exact sgeRead_moves alone ok bytes
  | payloadWritten arrival jfrId rqe sge copied chunk =>
      obtain ⟨alone, same⟩ := withdraw_ledger single found rfl
      rw [← same]
      exact payloadWritten_moves alone idle ok
  | contextRead command =>
      rw [← other rfl]
      simp only [runCallback, contextRead]
      split
      next => exact applyUbaseMailbox_moves command bytes fun isCreate _ =>
          filed.vacant command (List.mem_of_getElem? found) isCreate
      next => exact finishUbaseDescriptor_moves _ command 5
  | descriptorWritten =>
      rw [← other rfl]
      exact .refl

theorem finishedCall_run {completion : Cq.State} {event : Cq.Event} {told : Nat × Bool}
    (finished : finishedCall completion event = some told) : event = .run := by
  cases event <;> simp [finishedCall] at finished
  rfl

theorem completionStep_moves (single : state.Single) {event : Cq.Event}
    (taken : completionStep config state event = some after) :
    Moves config (state.ledger []) (after.ledger []) := by
  unfold completionStep at taken
  obtain ⟨completion, stepped, rfl⟩ := Option.map_eq_some_iff.mp taken
  have progressed (other : ∀ call ok, ∀ publishing : Publishing,
      finishedCall state.completion event = some (call, ok) →
      publishing.reception ∈ state.held → publishing.call ≠ call) :
      Moves config (state.ledger [])
        (({ state with
            completion := completion
            landed := state.landed ++ (state.completion.landing event).toList } : State).ledger
          []) := by
    have unaware : ∀ call ok, ∀ publishing : Publishing,
        finishedCall (state.ledger []).completion event = some (call, ok) →
        publishing.reception ∈ (state.ledger []).receptions → publishing.call ≠ call := by
      simpa [State.ledger] using other
    exact .single (.progressed stepped unaware)
  simp only
  split
  next unfinished =>
    exact progressed fun call ok publishing finished => by simp [unfinished] at finished
  next call ok finished =>
    split
    next absent =>
      refine progressed fun other ok publishing told held => ?_
      rw [finished, Option.some.injEq, Prod.mk.injEq] at told
      obtain ⟨rfl, rfl⟩ := told
      have waiting : publishing ∈ state.awaiting := by
        rcases List.mem_append.mp held with called | waits
        · obtain ⟨callback, _, own⟩ := List.mem_filterMap.mp called
          cases callback <;> simp [Callback.reception, Publishing.reception] at own
        · obtain ⟨entry, member, same⟩ := List.mem_map.mp waits
          obtain rfl : entry = publishing := by
            simpa [Publishing.reception] using (Reception.mk.inj same).2
          exact member
      simpa using List.find?_eq_none.mp absent publishing waiting
    next publishing found =>
      have waiting := List.mem_of_find?_eq_some found
      have same : publishing.call = call := by simpa using List.find?_some found
      obtain rfl := finishedCall_run finished
      have short := single.le_one
      rw [State.held, List.length_append, List.length_map] at short
      have positive := List.length_pos_of_mem waiting
      have called : state.outstanding.filterMap Callback.reception = [] :=
        List.length_eq_zero_iff.mp (by omega)
      obtain ⟨only, shape⟩ := List.length_eq_one_iff.mp (by omega : state.awaiting.length = 1)
      obtain rfl : publishing = only := by simpa [shape] using waiting
      have held : state.held = [publishing.reception] := by simp [State.held, called, shape]
      have alone : (state.ledger []).receptions = [publishing.reception] := by
        simp [State.ledger, held]
      have told : finishedCall (state.ledger []).completion .run = some (publishing.call, ok) := by
        rw [same]
        exact finished
      have moved : Move config (state.ledger []) _ := .concluded alone stepped told
      refine .single ?_
      convert moved using 1
      cases ok with
      | true =>
          cases lookup : state.jfrs.lookup publishing.jfrId with
          | none =>
              simp [cqeWritten, consume, lookup, Ledger.consume, State.ledger, Ledger.conclude,
                State.held, called, shape, endReceive, releaseReceive]
          | some jfr =>
              simp [cqeWritten, consume, lookup, Ledger.consume, State.ledger, Ledger.conclude,
                State.held, called, shape, endReceive, releaseReceive]
      | false =>
          simp [cqeWritten, State.ledger, Ledger.conclude, State.held, called, shape, endReceive,
            releaseReceive]

theorem step_moves {event : Event} (single : state.Single) (filed : state.Filed)
    (taken : step config state event = some after) :
    Moves config (state.ledger []) (after.ledger []) := by
  rcases step_cases taken with ⟨task, rest, _, _, idle, rfl⟩ | ⟨acted, idle⟩
  · cases task with
    | external => exact .refl
    | maybeCompleteQueueDestroy =>
        exact maybeCompleteQueueDestroy_moves { state with stack := rest }
    | processReceiveQueue =>
        have popped : ({ state with stack := rest } : State).receiveBusy = false →
            ({ state with stack := rest } : State).held = [] := single.idle
        exact processReceiveQueue_moves popped
  · cases event with
    | run => simp [environment] at acted
    | fire index ok bytes =>
        obtain ⟨callback, found, rfl⟩ := Option.map_eq_some_iff.mp acted
        exact fire_moves single filed (idle.resolve_left (by simp)) found ok bytes
    | receive frame =>
        obtain rfl := Option.some.inj acted
        exact receive_moves single.idle frame
    | mailbox command =>
        simp only [environment] at acted
        split at acted
        next => simp at acted
        next =>
          obtain rfl := Option.some.inj acted
          exact handleUbaseMailbox_moves { state with ubaseBusy := true } command
    | sendEngine busy =>
        obtain rfl := Option.some.inj acted
        exact .refl
    | maybeCompleteQueueDestroy =>
        obtain rfl := Option.some.inj acted
        exact .refl
    | completion event => exact completionStep_moves single acted

theorem Ledger.Move.single {ledger next : Ledger} (moved : Move config ledger next)
    (single : ledger.receptions.length = ledger.busy.toNat) :
    next.receptions.length = next.busy.toNat := by
  cases moved with
  | started _ free none => rfl
  | opened shape | asked shape | chosen shape | fetched shape | scattered shape | written shape
    | published shape =>
      rw [shape] at single
      exact single
  | failed | concluded => rfl
  | _ => exact single

theorem single_of_reaches {guard : State → Event → State → Prop}
    (reached : Reaches (step config) guard .initial state) : state.Single := by
  refine reached.induction_on State.Single rfl ?_
  intro before event after earlier single taken _
  have moves := step_moves single (filed_of_reaches earlier) taken
  have kept : (after.ledger []).receptions.length = (after.ledger []).busy.toNat := by
    generalize after.ledger [] = last at moves
    induction moves with
    | refl => exact single
    | tail _ moved inductionHypothesis => exact moved.single inductionHypothesis
  exact kept

end Udma.Receive.Queue
