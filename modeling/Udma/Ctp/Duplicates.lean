import Mathlib
import Udma.Collections.Withdraw
import Udma.Transition.Run

/-!
# Duplicate requests of the transport

`DispatchInboundTransaction` keeps a record of every READ and WRITE request under its
entity, Jetty and 16-bit number, and takes a request that finds a record for a
retransmission.  A record that holds a response expires a retry horizon after it was
last touched; a record without one stays.

The link may lose, duplicate, delay and reorder packets, and the executor of the target
answers when it likes, or not at all.
-/

namespace Udma.Ctp

open Udma.Collections
open Udma.Transition

/-! ## Requests and responses -/

/-- `UbCtpEntityKey`. -/
structure EntityKey where
  srcEntityId : UInt32
  dstNodeId : UInt32
  dstEntityId : UInt32
  vl : UInt8
  deriving DecidableEq

/-- `CtpJettyKey`. -/
abbrev JettyKey := EntityKey × UInt32

/-- `CtpRequestKey`, with the number that the wire carries. -/
abbrev RequestKey := EntityKey × UInt32 × UInt16

inductive Opcode where
  | send
  | write
  | read
  | taack
  | readResponse
  deriving DecidableEq

/-- `reliableRma`. -/
def Opcode.reliable : Opcode → Bool
  | write | read => true
  | _ => false

structure Config where
  retransmissionTimeout : Nat
  maxRetransmissionAttempts : Nat
  maxSegmentBytes : Nat := 4096

/-- How long a record is kept. -/
def Config.horizon (config : Config) : Nat :=
  config.retransmissionTimeout * (config.maxRetransmissionAttempts + 1)

structure Request where
  entity : EntityKey
  jetty : UInt32
  sequence : Nat
  taskId : Nat
  opcode : Opcode
  deriving DecidableEq

/-- `receiveKey`. -/
def Request.key (request : Request) : RequestKey :=
  (request.entity, request.jetty, .ofNat request.sequence)

/-- A response segment; `serial` tells it from the others, as its address does. -/
structure Response where
  serial : Nat
  request : Request
  opcode : Opcode
  payloadBytes : Nat
  aborted : Bool
  deriving DecidableEq

/-- `cacheResponse`. -/
def Response.cached (response : Response) : Bool :=
  (response.request.opcode == .write && response.opcode == .taack) ||
    (response.request.opcode == .read && response.opcode == .readResponse)

/-! ## The target -/

/-- `ReceivedRmaRecord`. -/
structure Record where
  response : Option Response := none
  expires : Nat := 0
  queued : Nat := 0
  deriving DecidableEq

/-- A response in a local queue, and whether `TrackQueuedResponse` has noted it. -/
structure QueuedResponse where
  response : Response
  tracked : Bool
  deriving DecidableEq

structure Target where
  records : RequestKey → Option Record := fun _ => none
  executing : List Request := []
  queue : List QueuedResponse := []
  nextSerial : Nat := 0
  /-- History: when a record was touched. -/
  touches : List (RequestKey × Nat) := []
  /-- History: the executions whose response was not kept, or is still to come. -/
  unanswered : List RequestKey := []

namespace Target

/-- The loop over all records. -/
def expireRecords (target : Target) (now : Nat) : Target :=
  { target with
    records := fun key =>
      (target.records key).filter fun record =>
        !(record.response.isSome && record.queued == 0 && decide (record.expires ≤ now)) }

def setRecord (target : Target) (key : RequestKey) (record : Record) : Target :=
  { target with records := Function.update target.records key (some record) }

def touch (target : Target) (key : RequestKey) (now : Nat) : Target :=
  { target with touches := target.touches ++ [(key, now)] }

/-- `SendResponseSegment`, with `TrackQueuedResponse`. -/
def sendResponseSegment (target : Target) (response : Response) : Target :=
  match target.records response.request.key with
  | none => { target with queue := target.queue ++ [⟨response, false⟩] }
  | some record =>
      if record.response = some response then
        { target.setRecord response.request.key { record with queued := record.queued + 1 } with
          queue := target.queue ++ [⟨response, true⟩] }
      else { target with queue := target.queue ++ [⟨response, false⟩] }

/-- `ReplayResponseSegment`. -/
def replayResponseSegment (config : Config) (target : Target) (response : Response) : Target :=
  if response.opcode = .taack ∨ response.aborted = true then target.sendResponseSegment response
  else if response.opcode ≠ .readResponse ∨ response.payloadBytes = 0 ∨
      config.maxSegmentBytes < response.payloadBytes then target
  else target.sendResponseSegment response

/-- `DispatchInboundTransaction`, and whether it has executed the request. -/
def dispatchInboundTransaction (config : Config) (now : Nat) (target : Target)
    (request : Request) : Bool × Target :=
  let target := target.expireRecords now
  if request.opcode.reliable then
    match target.records request.key with
    | none =>
        (true, { (target.setRecord request.key {}).touch request.key now with
          executing := target.executing ++ [request]
          unanswered := target.unanswered ++ [request.key] })
    | some record =>
        match record.response with
        | none => (false, target.touch request.key now)
        | some response =>
            let target := (target.setRecord request.key
              { record with expires := now + config.horizon }).touch request.key now
            if record.queued ≠ 0 then (false, target)
            else (false, target.replayResponseSegment config response)
  else (true, { target with executing := target.executing ++ [request] })

/-- The sink, when the execution at `index` ends with a response. -/
def respond (config : Config) (now : Nat) (target : Target) (index : Nat) (opcode : Opcode)
    (payloadBytes : Nat) (aborted : Bool) : Option Target :=
  match target.executing[index]? with
  | none => none
  | some request =>
      let response : Response := ⟨target.nextSerial, request, opcode, payloadBytes, aborted⟩
      let target := { target with
        executing := target.executing.eraseIdx index
        nextSerial := target.nextSerial + 1 }
      let target :=
        if response.cached then
          { (target.setRecord request.key
              { (target.records request.key).getD {} with
                response := some response
                expires := now + config.horizon }).touch request.key now with
            unanswered := target.unanswered.erase request.key }
        else target
      some (target.sendResponseSegment response)

/-- The execution at `index` ends without a response. -/
def abandon (target : Target) (index : Nat) : Option Target :=
  if index < target.executing.length then
    some { target with executing := target.executing.eraseIdx index }
  else none

/-- Take a response off the count of its record. -/
def untrack (target : Target) (entry : QueuedResponse) (expires : Record → Nat) : Target :=
  match entry.tracked, target.records entry.response.request.key with
  | true, some record =>
      if record.response = some entry.response then
        target.setRecord entry.response.request.key
          { record with queued := record.queued - 1, expires := expires record }
      else target
  | _, _ => target

/-- `RequestActuallySent` for the response at `index`. -/
def actuallySent (config : Config) (now : Nat) (target : Target) (index : Nat) :
    Option (Response × Target) :=
  match target.queue[index]? with
  | none => none
  | some entry =>
      let target := { target with queue := target.queue.eraseIdx index }
      let target := target.untrack entry fun _ => now + config.horizon
      some (entry.response,
        if entry.tracked then target.touch entry.response.request.key now else target)

/-- `ResponseDiscardedBeforeSend` for the response at `index`. -/
def discardedBeforeSend (target : Target) (index : Nat) : Option Target :=
  match target.queue[index]? with
  | none => none
  | some entry =>
      some ({ target with queue := target.queue.eraseIdx index }.untrack entry Record.expires)

end Target

/-! ## The system -/

inductive Packet where
  | request (request : Request)
  | response (response : Response)
  deriving DecidableEq

structure Arrival where
  request : Request
  fresh : Bool
  executed : Bool
  deriving DecidableEq

structure State where
  now : Nat := 0
  next : JettyKey → Nat := fun _ => 0
  /-- The outstanding requests, with the attempts made. -/
  outstanding : List (Request × Nat) := []
  link : List Packet := []
  target : Target := {}
  /-- History: the requests that reached the target. -/
  arrivals : List Arrival := []

/-- It has not arrived before, and the earlier use of its number is over at the source. -/
def State.fresh (state : State) (request : Request) : Bool :=
  state.arrivals.all (fun arrival => arrival.request != request) &&
    state.outstanding.all fun entry =>
      !(entry.1.key == request.key && decide (entry.1.sequence < request.sequence))

inductive Event where
  | tick (time : Nat)
  | send (entity : EntityKey) (jetty : UInt32) (taskId : Nat) (opcode : Opcode)
  | timeout (index : Nat)
  | lose (index : Nat)
  | duplicate (index : Nat)
  | deliver (index : Nat)
  | respond (index : Nat) (opcode : Opcode) (payloadBytes : Nat) (aborted : Bool)
  | abandon (index : Nat)
  | actuallySent (index : Nat)
  | discardedBeforeSend (index : Nat)

/-- The WQE of a request. -/
def Request.sameWqe (request other : Request) : Bool :=
  request.jetty == other.jetty && request.taskId == other.taskId

/-- `HandleRetransmissionTimeout` for an outstanding request. -/
def handleRetransmissionTimeout (config : Config) (state : State) (index : Nat) : Option State :=
  match state.outstanding[index]? with
  | none => none
  | some (request, attempts) =>
      if !request.opcode.reliable then none
      else if config.maxRetransmissionAttempts ≤ attempts then
        some { state with
          outstanding := state.outstanding.filter fun entry => !entry.1.sameWqe request }
      else
        some { state with
          outstanding := state.outstanding.set index (request, attempts + 1)
          link := state.link ++ [.request request] }

/-- `CompleteFromTaAckNow`: a response whose task is not outstanding is ignored. -/
def completeFromTaAck (outstanding : List (Request × Nat)) (response : Response) :
    List (Request × Nat) :=
  let matching := fun entry : Request × Nat =>
    entry.1.key == response.request.key && entry.1.taskId == response.request.taskId
  if response.aborted && outstanding.any matching then
    outstanding.filter fun entry => !entry.1.sameWqe response.request
  else outstanding.eraseP matching

def step (config : Config) (state : State) : Event → Option State
  | .tick time => some { state with now := state.now + time }
  | .send entity jetty taskId opcode =>
      if opcode = .taack ∨ opcode = .readResponse then none
      else
        let request : Request := ⟨entity, jetty, state.next (entity, jetty), taskId, opcode⟩
        some { state with
          next := Function.update state.next (entity, jetty) (state.next (entity, jetty) + 1)
          outstanding := state.outstanding ++ [(request, 0)]
          link := state.link ++ [.request request] }
  | .timeout index => handleRetransmissionTimeout config state index
  | .lose index =>
      if index < state.link.length then some { state with link := state.link.eraseIdx index }
      else none
  | .duplicate index =>
      state.link[index]?.map fun packet => { state with link := state.link ++ [packet] }
  | .deliver index =>
      match state.link[index]? with
      | none => none
      | some (.request request) =>
          let dispatched := state.target.dispatchInboundTransaction config state.now request
          some { state with
            link := state.link.eraseIdx index
            target := dispatched.2
            arrivals := state.arrivals ++ [⟨request, state.fresh request, dispatched.1⟩] }
      | some (.response response) =>
          some { state with
            link := state.link.eraseIdx index
            outstanding := completeFromTaAck state.outstanding response }
  | .respond index opcode payloadBytes aborted =>
      (state.target.respond config state.now index opcode payloadBytes aborted).map fun target =>
        { state with target := target }
  | .abandon index => (state.target.abandon index).map fun target =>
      { state with target := target }
  | .actuallySent index =>
      (state.target.actuallySent config state.now index).map fun sent =>
        { state with
          link := state.link ++ [.response sent.1]
          target := sent.2 }
  | .discardedBeforeSend index => (state.target.discardedBeforeSend index).map fun target =>
      { state with target := target }

/-- Every new request was executed when it first arrived. -/
def NeverSuppressed (state : State) : Prop :=
  ∀ arrival ∈ state.arrivals, arrival.fresh = true → arrival.executed = true

/-- What the number of a request must have seen: each execution under it is answered by a
response that is kept, no such response waits in a local queue, and a retry horizon has
passed since the last arrival, answer or sending. -/
structure Settled (config : Config) (state : State) (key : RequestKey) : Prop where
  answered : key ∉ state.target.unanswered
  unqueued : ∀ entry ∈ state.target.queue, entry.tracked = true →
    entry.response.request.key ≠ key
  passed : ∀ touched ∈ state.target.touches, touched.1 = key →
    touched.2 + config.horizon ≤ state.now

/-- If the packet is a new READ or WRITE request, its number is settled. -/
def Packet.Settled (config : Config) (state : State) : Packet → Prop
  | .request carried => state.fresh carried = true → carried.opcode.reliable = true →
      Ctp.Settled config state carried.key
  | .response _ => True

/-- New READ and WRITE requests arrive under settled numbers only. -/
def OnSettled (config : Config) (before : State) : Event → State → Prop
  | .deliver index, _ => ∀ packet ∈ before.link[index]?, packet.Settled config before
  | _, _ => True

/-! ## What the records know -/

/-- The response in the queue is the one of the record. -/
def Record.holds (record : Record) (entry : QueuedResponse) : Bool :=
  entry.tracked && record.response == some entry.response

namespace Target

structure Sound (config : Config) (target : Target) : Prop where
  own : ∀ key record response, target.records key = some record →
    record.response = some response → response.request.key = key
  born : ∀ key record response, target.records key = some record →
    record.response = some response → response.serial < target.nextSerial
  waiting : ∀ key record, target.records key = some record → record.response = none →
    key ∈ target.unanswered
  queued : ∀ key record, target.records key = some record →
    record.queued = (target.queue.filter record.holds).length
  expires : ∀ key record response, target.records key = some record →
    record.response = some response →
      ∃ time, (key, time) ∈ target.touches ∧ record.expires = time + config.horizon
  executing : ∀ request ∈ target.executing, request.opcode.reliable = true →
    ∃ record, target.records request.key = some record ∧ record.response = none
  alone : ((target.executing.filter fun request => request.opcode.reliable).map
    Request.key).Nodup
  serials : ∀ entry ∈ target.queue, entry.response.serial < target.nextSerial

variable {config : Config} {target : Target} {key : RequestKey} {record : Record} {now : Nat}

theorem Sound.initial : Sound config {} := by
  constructor <;> simp

theorem setRecord_cases {other : RequestKey} {found : Record}
    (there : (target.setRecord key record).records other = some found) :
    (other = key ∧ record = found) ∨ (other ≠ key ∧ target.records other = some found) := by
  by_cases same : other = key
  · subst same
    simp only [setRecord, Function.update_self, Option.some.injEq] at there
    exact .inl ⟨rfl, there⟩
  · simp only [setRecord, Function.update_of_ne same] at there
    exact .inr ⟨same, there⟩

@[simp]
theorem setRecord_self : (target.setRecord key record).records key = some record :=
  Function.update_self ..

theorem setRecord_of_ne {other : RequestKey} (different : other ≠ key) :
    (target.setRecord key record).records other = target.records other :=
  Function.update_of_ne different ..

theorem Sound.touch (sound : Sound config target) : Sound config (target.touch key now) where
  own := sound.own
  born := sound.born
  waiting := sound.waiting
  queued := sound.queued
  expires := by
    intro other record response there answered
    obtain ⟨time, touched, expires⟩ := sound.expires other record response there answered
    exact ⟨time, List.mem_append_left _ touched, expires⟩
  executing := sound.executing
  alone := sound.alone
  serials := sound.serials

/-- A record is gone exactly when it holds a response that has expired and is not queued. -/
theorem expireRecords_eq_some :
    (target.expireRecords now).records key = some record ↔
      target.records key = some record ∧
        ¬ (record.response.isSome = true ∧ record.queued = 0 ∧ record.expires ≤ now) := by
  simp only [expireRecords, Option.filter_eq_some_iff, Bool.not_eq_true', Bool.eq_false_iff, ne_eq,
    Bool.and_eq_true, beq_iff_eq, decide_eq_true_eq, and_assoc]

theorem Sound.expireRecords (sound : Sound config target) :
    Sound config (target.expireRecords now) where
  own := by
    intro key record response there
    exact sound.own key record response (expireRecords_eq_some.mp there).1
  born := by
    intro key record response there
    exact sound.born key record response (expireRecords_eq_some.mp there).1
  waiting := by
    intro key record there
    exact sound.waiting key record (expireRecords_eq_some.mp there).1
  queued := by
    intro key record there
    exact sound.queued key record (expireRecords_eq_some.mp there).1
  expires := by
    intro key record response there
    exact sound.expires key record response (expireRecords_eq_some.mp there).1
  executing := by
    intro request running reliable
    obtain ⟨record, there, empty⟩ := sound.executing request running reliable
    exact ⟨record, expireRecords_eq_some.mpr ⟨there, by simp [empty]⟩, empty⟩
  alone := sound.alone
  serials := sound.serials

/-- The response of a record answers a request under the key of the record. -/
theorem Sound.not_holds (sound : Sound config target) {other : RequestKey} {found : Record}
    {entry : QueuedResponse} (there : target.records other = some found)
    (elsewhere : entry.response.request.key ≠ other) : found.holds entry = false := by
  unfold Record.holds
  rw [Bool.and_eq_false_iff]
  right
  rw [beq_eq_false_iff_ne]
  intro same
  exact elsewhere (sound.own other found _ there same)

theorem holds_response {entry : QueuedResponse} (holds : record.holds entry = true) :
    record.response = some entry.response := by
  simp only [Record.holds, Bool.and_eq_true, beq_iff_eq] at holds
  exact holds.2

theorem filter_holds_of_none {queue : List QueuedResponse} (empty : record.response = none) :
    queue.filter record.holds = [] := by
  simp [Record.holds, empty]

/-- A record with a response may be counted and timed anew, together with the queue. -/
theorem Sound.exchange (sound : Sound config target) {response : Response} {changed : Record}
    {queue : List QueuedResponse} (there : target.records key = some record)
    (answered : record.response = some response) (same : changed.response = some response)
    (counted : changed.queued = (queue.filter changed.holds).length)
    (others : ∀ other found, other ≠ key → target.records other = some found →
      found.queued = (queue.filter found.holds).length)
    (timed : ∃ time, (key, time) ∈ target.touches ∧ changed.expires = time + config.horizon)
    (serials : ∀ entry ∈ queue, entry.response.serial < target.nextSerial) :
    Sound config { target.setRecord key changed with queue := queue } := by
  have kept : ∀ reply, changed.response = some reply → record.response = some reply := by
    intro reply replied
    exact answered.trans (same.symm.trans replied)
  refine ⟨?_, ?_, ?_, ?_, ?_, ?_, sound.alone, serials⟩
  · intro other found reply present replied
    rcases setRecord_cases present with ⟨rfl, rfl⟩ | ⟨_, old⟩
    · exact sound.own _ record reply there (kept reply replied)
    · exact sound.own other found reply old replied
  · intro other found reply present replied
    rcases setRecord_cases present with ⟨rfl, rfl⟩ | ⟨_, old⟩
    · exact sound.born _ record reply there (kept reply replied)
    · exact sound.born other found reply old replied
  · intro other found present empty
    rcases setRecord_cases present with ⟨rfl, rfl⟩ | ⟨_, old⟩
    · simp [same] at empty
    · exact sound.waiting other found old empty
  · intro other found present
    rcases setRecord_cases present with ⟨rfl, rfl⟩ | ⟨different, old⟩
    · exact counted
    · exact others other found different old
  · intro other found reply present replied
    rcases setRecord_cases present with ⟨rfl, rfl⟩ | ⟨_, old⟩
    · exact timed
    · exact sound.expires other found reply old replied
  · intro request running reliable
    obtain ⟨found, present, empty⟩ := sound.executing request running reliable
    have different : request.key ≠ key := by
      rintro rfl
      obtain rfl := Option.some.inj (there.symm.trans present)
      simp [answered] at empty
    exact ⟨found, (setRecord_of_ne different).trans present, empty⟩

/-- A duplicate or a sending gives the record another time of expiry. -/
theorem Sound.refresh (sound : Sound config target) {response : Response}
    (there : target.records key = some record) (answered : record.response = some response) :
    Sound config ((target.setRecord key { record with expires := now + config.horizon }).touch
      key now) := by
  have touched : Sound config (target.touch key now) := sound.touch
  refine touched.exchange there answered answered (sound.queued key record there) ?_
    ⟨now, List.mem_append_right _ (List.mem_singleton.mpr rfl), rfl⟩ sound.serials
  intro other found _ old
  exact sound.queued other found old

theorem Sound.sendResponseSegment (sound : Sound config target) {response : Response}
    (known : response.serial < target.nextSerial) :
    Sound config (target.sendResponseSegment response) := by
  have serials : ∀ tracked, ∀ entry ∈ target.queue ++ [⟨response, tracked⟩],
      entry.response.serial < target.nextSerial := by
    intro tracked entry membership
    rcases List.mem_append.mp membership with old | new
    · exact sound.serials entry old
    · obtain rfl := List.mem_singleton.mp new
      exact known
  -- An entry that a record does not hold leaves its count alone.
  have ignored : ∀ key (record : Record) tracked, target.records key = some record →
      record.holds ⟨response, tracked⟩ = false →
      record.queued = (List.filter record.holds
        (target.queue ++ [⟨response, tracked⟩])).length := by
    intro key record tracked there skipped
    rw [List.filter_append, List.filter_cons_of_neg (by simp [skipped])]
    simpa using sound.queued key record there
  have untracked : Sound config { target with queue := target.queue ++ [⟨response, false⟩] } := by
    refine ⟨sound.own, sound.born, sound.waiting, ?_, sound.expires, sound.executing, sound.alone,
      serials false⟩
    intro key record there
    exact ignored key record false there (by simp [Record.holds])
  unfold Target.sendResponseSegment
  cases there : target.records response.request.key with
  | none => exact untracked
  | some record =>
      dsimp only
      split
      next answered =>
        refine sound.exchange there answered answered ?_ ?_
          (sound.expires _ record response there answered) (serials true)
        · have holds : Record.holds { record with queued := record.queued + 1 }
              ⟨response, true⟩ = true := by simp [Record.holds, answered]
          have count := sound.queued _ record there
          rw [List.filter_append, List.filter_cons_of_pos holds, List.length_append]
          dsimp only
          rw [count]
          rfl
        · intro other found different old
          exact ignored other found true old (sound.not_holds old different.symm)
      next => exact untracked

theorem Sound.replayResponseSegment (sound : Sound config target) {response : Response}
    (known : response.serial < target.nextSerial) :
    Sound config (target.replayResponseSegment config response) := by
  unfold Target.replayResponseSegment
  split
  next => exact sound.sendResponseSegment known
  next =>
    split
    next => exact sound
    next => exact sound.sendResponseSegment known

theorem Sound.dispatch (sound : Sound config target) (request : Request) :
    Sound config (target.dispatchInboundTransaction config now request).2 := by
  have expired := @Sound.expireRecords config target now sound
  unfold dispatchInboundTransaction
  generalize target.expireRecords now = target at expired
  dsimp only
  split
  next reliable =>
    cases there : target.records request.key with
    | none =>
        have apart : ∀ other ∈ target.executing, other.opcode.reliable = true →
            other.key ≠ request.key := by
          intro other running first same
          obtain ⟨record, present, _⟩ := expired.executing other running first
          simp [same, there] at present
        dsimp only
        refine ⟨?_, ?_, ?_, ?_, ?_, ?_, ?_, expired.serials⟩
        · intro key record response present answered
          rcases setRecord_cases present with ⟨rfl, rfl⟩ | ⟨_, old⟩
          · simp at answered
          · exact expired.own key record response old answered
        · intro key record response present answered
          rcases setRecord_cases present with ⟨rfl, rfl⟩ | ⟨_, old⟩
          · simp at answered
          · exact expired.born key record response old answered
        · intro key record present empty
          rcases setRecord_cases present with ⟨rfl, rfl⟩ | ⟨_, old⟩
          · simp
          · exact List.mem_append_left _ (expired.waiting key record old empty)
        · intro key record present
          rcases setRecord_cases present with ⟨rfl, rfl⟩ | ⟨_, old⟩
          · rw [filter_holds_of_none rfl]
            rfl
          · exact expired.queued key record old
        · intro key record response present answered
          rcases setRecord_cases present with ⟨rfl, rfl⟩ | ⟨_, old⟩
          · simp at answered
          · exact expired.touch.expires key record response old answered
        · intro other running first
          rcases List.mem_append.mp running with old | new
          · obtain ⟨record, present, empty⟩ := expired.executing other old first
            exact ⟨record, (setRecord_of_ne (apart other old first)).trans present, empty⟩
          · obtain rfl := List.mem_singleton.mp new
            exact ⟨{}, setRecord_self, rfl⟩
        · rw [List.filter_append, List.map_append, List.filter_cons_of_pos (by simpa using reliable)]
          refine List.nodup_append.mpr ⟨expired.alone, by simp, ?_⟩
          rintro key old _ new rfl
          obtain ⟨other, running, same⟩ := List.mem_map.mp old
          obtain ⟨inside, first⟩ := List.mem_filter.mp running
          simp only [List.filter_nil, List.map_cons, List.map_nil, List.mem_singleton] at new
          exact apart other inside first (same.trans new)
    | some record =>
        dsimp only
        cases answered : record.response with
        | none => exact expired.touch
        | some response =>
            have refreshed := @Sound.refresh config target request.key record now expired response
              there answered
            rw [answered] at refreshed
            have known := expired.born request.key record response there answered
            dsimp only
            split
            next => exact refreshed
            next => exact refreshed.replayResponseSegment known
  next unreliable =>
    refine ⟨expired.own, expired.born, expired.waiting, expired.queued, expired.expires, ?_, ?_,
      expired.serials⟩
    · intro other running first
      rcases List.mem_append.mp running with old | new
      · exact expired.executing other old first
      · obtain rfl := List.mem_singleton.mp new
        exact absurd first unreliable
    · rw [List.filter_append, List.filter_cons_of_neg (by simpa using unreliable)]
      simpa using expired.alone

/-- An execution may end. -/
theorem Sound.ended (sound : Sound config target) (index serial : Nat)
    (later : target.nextSerial ≤ serial) :
    Sound config { target with
      executing := target.executing.eraseIdx index
      nextSerial := serial } := by
  refine ⟨sound.own, ?_, sound.waiting, sound.queued, sound.expires, ?_, ?_, ?_⟩
  · intro key record response there answered
    exact Nat.lt_of_lt_of_le (sound.born key record response there answered) later
  · intro request running
    exact sound.executing request (List.mem_of_mem_eraseIdx running)
  · exact sound.alone.sublist (((List.eraseIdx_sublist ..).filter _).map _)
  · intro entry membership
    exact Nat.lt_of_lt_of_le (sound.serials entry membership) later

theorem Sound.abandon (sound : Sound config target) {index : Nat} {next : Target}
    (taken : target.abandon index = some next) : Sound config next := by
  unfold Target.abandon at taken
  split at taken
  next =>
    obtain rfl := Option.some.inj taken
    exact sound.ended index _ (Nat.le_refl _)
  next => simp at taken

theorem Sound.respond (sound : Sound config target) {index payloadBytes : Nat} {opcode : Opcode}
    {aborted : Bool} {next : Target}
    (taken : target.respond config now index opcode payloadBytes aborted = some next) :
    Sound config next := by
  unfold Target.respond at taken
  cases running : target.executing[index]? with
  | none => simp [running] at taken
  | some request =>
      simp only [running, Option.some.injEq] at taken
      subst taken
      have ended := sound.ended index (target.nextSerial + 1) (Nat.le_succ _)
      generalize made : (⟨target.nextSerial, request, opcode, payloadBytes, aborted⟩ : Response) =
        response
      have serial : response.serial = target.nextSerial := by rw [← made]
      have about : response.request = request := by rw [← made]
      apply Sound.sendResponseSegment
      · split
        next cached =>
          have reliable : request.opcode.reliable = true := by
            rw [← about]
            simp only [Response.cached, Bool.or_eq_true, Bool.and_eq_true, beq_iff_eq] at cached
            rcases cached with ⟨write, _⟩ | ⟨read, _⟩
            · rw [write]
              rfl
            · rw [read]
              rfl
          obtain ⟨record, there, empty⟩ :=
            sound.executing request (List.mem_of_getElem? running) reliable
          have others : ∀ other ∈ target.executing.eraseIdx index,
              other.opcode.reliable = true → other.key ≠ request.key := by
            intro other membership first same
            have order := ((perm_cons_eraseIdx running).filter fun request =>
              request.opcode.reliable).map Request.key
            have alone := order.nodup_iff.mp sound.alone
            rw [List.filter_cons_of_pos (by simpa using reliable), List.map_cons,
              List.nodup_cons] at alone
            exact alone.1 (List.mem_map.mpr ⟨other, List.mem_filter.mpr ⟨membership, first⟩, same⟩)
          simp only [there, Option.getD_some]
          refine ⟨?_, ?_, ?_, ?_, ?_, ?_, ended.alone, ended.serials⟩
          · intro key found reply present replied
            rcases setRecord_cases present with ⟨rfl, rfl⟩ | ⟨_, old⟩
            · obtain rfl := Option.some.inj replied
              rw [about]
            · exact ended.own key found reply old replied
          · intro key found reply present replied
            rcases setRecord_cases present with ⟨rfl, rfl⟩ | ⟨_, old⟩
            · obtain rfl := Option.some.inj replied
              exact serial ▸ Nat.lt_succ_self _
            · exact ended.born key found reply old replied
          · intro key found present blank
            rcases setRecord_cases present with ⟨rfl, rfl⟩ | ⟨different, old⟩
            · simp at blank
            · exact (List.mem_erase_of_ne different).mpr (ended.waiting key found old blank)
          · intro key found present
            rcases setRecord_cases present with ⟨rfl, rfl⟩ | ⟨_, old⟩
            · -- The response is newer than what is in the queue.
              have none : target.queue.filter (Record.holds
                  { record with response := some response, expires := now + config.horizon }) =
                    [] := by
                rw [List.filter_eq_nil_iff]
                intro entry membership holds
                simp only [Record.holds, Bool.and_eq_true, beq_iff_eq, Option.some.injEq] at holds
                have older := sound.serials entry membership
                rw [← holds.2, serial] at older
                exact Nat.lt_irrefl _ older
              have count := sound.queued request.key record there
              rw [filter_holds_of_none empty] at count
              exact count.trans (congrArg List.length none).symm
            · exact ended.queued key found old
          · intro key found reply present replied
            rcases setRecord_cases present with ⟨rfl, rfl⟩ | ⟨_, old⟩
            · exact ⟨now, List.mem_append_right _ (List.mem_singleton.mpr rfl), rfl⟩
            · exact ended.touch.expires key found reply old replied
          · intro other membership first
            obtain ⟨found, present, blank⟩ := ended.executing other membership first
            exact ⟨found, (setRecord_of_ne (others other membership first)).trans present, blank⟩
        next => exact ended
      · rw [serial]
        split <;> exact Nat.lt_succ_self _

/-- A response that no record counts may leave the queue. -/
theorem Sound.dequeue (sound : Sound config target) {index : Nat} {entry : QueuedResponse}
    (held : target.queue[index]? = some entry)
    (ignored : ∀ key record, target.records key = some record → record.holds entry = false) :
    Sound config { target with queue := target.queue.eraseIdx index } := by
  refine ⟨sound.own, sound.born, sound.waiting, ?_, sound.expires, sound.executing, sound.alone, ?_⟩
  · intro key record there
    rw [filter_eraseIdx held (ignored key record there)]
    exact sound.queued key record there
  · intro other membership
    exact sound.serials other (List.mem_of_mem_eraseIdx membership)

/-- The record that counts the response counts one less. -/
theorem Sound.uncount (sound : Sound config target) {index : Nat} {entry : QueuedResponse}
    (held : target.queue[index]? = some entry)
    (there : target.records entry.response.request.key = some record)
    (holds : record.holds entry = true) :
    Sound config ({ target with queue := target.queue.eraseIdx index }.setRecord
      entry.response.request.key { record with queued := record.queued - 1 }) := by
  have answered := holds_response holds
  refine sound.exchange there answered answered ?_ ?_
    (sound.expires _ record _ there answered) ?_
  · have order := ((perm_cons_eraseIdx held).filter record.holds).length_eq
    rw [List.filter_cons_of_pos holds, List.length_cons, ← sound.queued _ record there] at order
    have same : Record.holds { record with queued := record.queued - 1 } = record.holds := rfl
    rw [same]
    dsimp only
    omega
  · intro other found different old
    rw [filter_eraseIdx held (sound.not_holds old different.symm)]
    exact sound.queued other found old
  · intro other membership
    exact sound.serials other (List.mem_of_mem_eraseIdx membership)

/-- What becomes of the records when a response leaves the queue. -/
theorem untrack_cases (sound : Sound config target) (entry : QueuedResponse)
    (expires : Record → Nat) (queue : List QueuedResponse) :
    ((∀ key record, target.records key = some record → record.holds entry = false) ∧
      { target with queue := queue }.untrack entry expires = { target with queue := queue }) ∨
    (∃ record, target.records entry.response.request.key = some record ∧
      record.holds entry = true ∧ entry.tracked = true ∧
      { target with queue := queue }.untrack entry expires =
        { target with queue := queue }.setRecord entry.response.request.key
          { record with queued := record.queued - 1, expires := expires record }) := by
  cases tracked : entry.tracked with
  | false =>
      refine .inl ⟨?_, by simp [untrack, tracked]⟩
      intro key record _
      simp [Record.holds, tracked]
  | true =>
      cases there : target.records entry.response.request.key with
      | none =>
          refine .inl ⟨?_, by simp [untrack, tracked, there]⟩
          intro key record present
          apply sound.not_holds present
          rintro rfl
          simp [there] at present
      | some record =>
          by_cases same : record.response = some entry.response
          · exact .inr ⟨record, rfl, by simp [Record.holds, tracked, same], rfl,
              by simp [untrack, tracked, there, same]⟩
          · refine .inl ⟨?_, by simp [untrack, tracked, there, same]⟩
            intro key found present
            by_cases own : entry.response.request.key = key
            · subst own
              obtain rfl := Option.some.inj (there.symm.trans present)
              simp [Record.holds, same]
            · exact sound.not_holds present own

theorem Sound.discardedBeforeSend (sound : Sound config target) {index : Nat} {next : Target}
    (taken : target.discardedBeforeSend index = some next) : Sound config next := by
  unfold Target.discardedBeforeSend at taken
  cases held : target.queue[index]? with
  | none => simp [held] at taken
  | some entry =>
      simp only [held, Option.some.injEq] at taken
      subst taken
      rcases untrack_cases sound entry Record.expires (target.queue.eraseIdx index) with
        ⟨ignored, same⟩ | ⟨record, there, holds, _, same⟩
      · rw [same]
        exact sound.dequeue held ignored
      · rw [same]
        exact sound.uncount held there holds

theorem Sound.actuallySent (sound : Sound config target) {index : Nat} {response : Response}
    {next : Target} (taken : target.actuallySent config now index = some (response, next)) :
    Sound config next := by
  unfold Target.actuallySent at taken
  cases held : target.queue[index]? with
  | none => simp [held] at taken
  | some entry =>
      simp only [held, Option.some.injEq, Prod.mk.injEq] at taken
      obtain ⟨_, rfl⟩ := taken
      rcases untrack_cases sound entry (fun _ => now + config.horizon)
        (target.queue.eraseIdx index) with ⟨ignored, same⟩ | ⟨record, there, holds, tracked, same⟩
      · rw [same]
        split
        next => exact (sound.dequeue held ignored).touch
        next => exact sound.dequeue held ignored
      · rw [same, if_pos tracked]
        have uncounted := sound.uncount held there holds
        have answered := holds_response holds
        have refreshed := @Sound.refresh config _ entry.response.request.key _ now uncounted
          entry.response setRecord_self answered
        simpa only [setRecord, Function.update_idem] using refreshed

end Target

/-! ## Runs -/

section Runs

variable {config : Config}

/-- A new request under a settled number is executed. -/
theorem dispatch_executes {state : State} {request : Request}
    (sound : state.target.Sound config)
    (settled : request.opcode.reliable = true → Settled config state request.key) :
    (state.target.dispatchInboundTransaction config state.now request).1 = true := by
  unfold Target.dispatchInboundTransaction
  dsimp only
  split
  next reliable =>
    have quiet := settled reliable
    have gone : (state.target.expireRecords state.now).records request.key = none := by
      by_contra present
      obtain ⟨record, found⟩ := Option.ne_none_iff_exists'.mp present
      obtain ⟨there, stays⟩ := Target.expireRecords_eq_some.mp found
      cases answered : record.response with
      | none => exact quiet.answered (sound.waiting _ record there answered)
      | some response =>
          apply stays
          refine ⟨by simp [answered], ?_, ?_⟩
          · rw [sound.queued _ record there, List.length_eq_zero_iff, List.filter_eq_nil_iff]
            intro entry membership holds
            simp only [Record.holds, Bool.and_eq_true, beq_iff_eq] at holds
            exact quiet.unqueued entry membership holds.1 (sound.own _ record _ there holds.2)
          · obtain ⟨time, touched, expires⟩ := sound.expires _ record response there answered
            rw [expires]
            exact quiet.passed _ touched rfl
    rw [gone]
  next => rfl

/-- How a step changes the target and the arrivals. -/
theorem step_cases {state next : State} {event : Event}
    (taken : step config state event = some next) :
    (∃ index request, event = .deliver index ∧ state.link[index]? = some (.request request) ∧
      next.target = (state.target.dispatchInboundTransaction config state.now request).2 ∧
      next.arrivals = state.arrivals ++ [⟨request, state.fresh request,
        (state.target.dispatchInboundTransaction config state.now request).1⟩]) ∨
    (next.arrivals = state.arrivals ∧ (state.target.Sound config → next.target.Sound config)) := by
  cases event with
  | tick time =>
      obtain rfl := Option.some.inj taken
      exact .inr ⟨rfl, id⟩
  | send entity jetty taskId opcode =>
      simp only [step] at taken
      obtain ⟨_, taken⟩ := Option.ite_none_left_eq_some.mp taken
      obtain rfl := Option.some.inj taken
      exact .inr ⟨rfl, id⟩
  | timeout index =>
      simp only [step, handleRetransmissionTimeout] at taken
      split at taken
      next => simp at taken
      next request attempts _ =>
        obtain ⟨_, taken⟩ := Option.ite_none_left_eq_some.mp taken
        split at taken <;>
        · obtain rfl := Option.some.inj taken
          exact .inr ⟨rfl, id⟩
  | lose index =>
      simp only [step, Option.ite_none_right_eq_some] at taken
      obtain rfl := Option.some.inj taken.2
      exact .inr ⟨rfl, id⟩
  | duplicate index =>
      obtain ⟨packet, _, rfl⟩ := Option.map_eq_some_iff.mp taken
      exact .inr ⟨rfl, id⟩
  | deliver index =>
      simp only [step] at taken
      cases carried : state.link[index]? with
      | none => simp [carried] at taken
      | some packet =>
          cases packet with
          | request request =>
              simp only [carried, Option.some.injEq] at taken
              subst taken
              exact .inl ⟨index, request, rfl, carried, rfl, rfl⟩
          | response response =>
              simp only [carried, Option.some.injEq] at taken
              subst taken
              exact .inr ⟨rfl, id⟩
  | respond index opcode payloadBytes aborted =>
      obtain ⟨target, responded, rfl⟩ := Option.map_eq_some_iff.mp taken
      exact .inr ⟨rfl, fun sound => sound.respond responded⟩
  | abandon index =>
      obtain ⟨target, abandoned, rfl⟩ := Option.map_eq_some_iff.mp taken
      exact .inr ⟨rfl, fun sound => sound.abandon abandoned⟩
  | actuallySent index =>
      obtain ⟨⟨response, target⟩, sent, rfl⟩ := Option.map_eq_some_iff.mp taken
      exact .inr ⟨rfl, fun sound => sound.actuallySent sent⟩
  | discardedBeforeSend index =>
      obtain ⟨target, discarded, rfl⟩ := Option.map_eq_some_iff.mp taken
      exact .inr ⟨rfl, fun sound => sound.discardedBeforeSend discarded⟩

theorem sound_step {state next : State} {event : Event} (sound : state.target.Sound config)
    (taken : step config state event = some next) : next.target.Sound config := by
  rcases step_cases taken with ⟨index, request, _, _, target, _⟩ | ⟨_, kept⟩
  · rw [target]
    exact sound.dispatch request
  · exact kept sound

/-- The records are sound in every run. -/
theorem sound_of_reaches {guard : State → Event → State → Prop} {state : State}
    (reached : Reaches (step config) guard {} state) : state.target.Sound config :=
  reached.invariant .initial fun _ _ _ sound taken _ => sound_step sound taken

theorem new_requests_executed {state : State}
    (reached : Reaches (step config) (OnSettled config) {} state) : NeverSuppressed state := by
  induction reached with
  | refl => simp [NeverSuppressed]
  | @tail before after event earlier taken settled inductionHypothesis =>
      rcases step_cases taken with ⟨index, request, rfl, carried, _, arrivals⟩ | ⟨arrivals, _⟩
      · unfold NeverSuppressed
        rw [arrivals]
        intro arrival membership fresh
        rcases List.mem_append.mp membership with old | new
        · exact inductionHypothesis arrival old fresh
        · obtain rfl := List.mem_singleton.mp new
          exact dispatch_executes (sound_of_reaches earlier) (settled _ carried fresh)
      · unfold NeverSuppressed
        rw [arrivals]
        exact inductionHypothesis

end Runs

instance (config : Config) (state : State) (key : RequestKey) :
    Decidable (Settled config state key) :=
  decidable_of_iff
    (key ∉ state.target.unanswered ∧
      (∀ entry ∈ state.target.queue, entry.tracked = true → entry.response.request.key ≠ key) ∧
      ∀ touched ∈ state.target.touches, touched.1 = key →
        touched.2 + config.horizon ≤ state.now)
    ⟨fun all => ⟨all.1, all.2.1, all.2.2⟩, fun all => ⟨all.answered, all.unqueued, all.passed⟩⟩

instance (config : Config) (state : State) (packet : Packet) :
    Decidable (packet.Settled config state) := by
  unfold Packet.Settled
  cases packet <;> infer_instance

instance (config : Config) (before : State) (event : Event) (after : State) :
    Decidable (OnSettled config before event after) := by
  unfold OnSettled
  rcases event with _ | _ <;> infer_instance

def someEntity : EntityKey := ⟨1, 2, 3, 1⟩

/-- A WRITE and its retransmission, and a READ of another Jetty with the same number. -/
theorem first_uses_executed :
    ∃ state, Reaches (step ⟨10, 1, 4096⟩) (OnSettled ⟨10, 1, 4096⟩) {} state ∧
      state.arrivals.map (fun arrival => (arrival.fresh, arrival.executed)) =
        [(true, true), (false, false), (true, true)] ∧ NeverSuppressed state := by
  obtain ⟨state, reached, seen⟩ := exists_of_execute
    (show (execute (step ⟨10, 1, 4096⟩) (OnSettled ⟨10, 1, 4096⟩)
      [.send someEntity 5 1 .write, .deliver 0, .tick 10, .timeout 0, .deliver 0,
        .respond 0 .taack 0 false, .send someEntity 6 2 .read, .deliver 0, .actuallySent 0,
        .deliver 0] {}).map
          (fun state => state.arrivals.map fun arrival => (arrival.fresh, arrival.executed)) =
            some [(true, true), (false, false), (true, true)] by decide +kernel)
  exact ⟨state, reached, seen, new_requests_executed reached⟩

/-! ## A request that is never answered -/

def firstWrite : Request := ⟨someEntity, 5, 0, 1, .write⟩

/-- The first WRITE has failed at the source and is still with the executor of the target;
`count` SENDs have completed since. -/
structure Abandoned (count : Nat) (state : State) : Prop where
  reached : Reaches (step ⟨10, 1, 4096⟩) always {} state
  next : state.next (someEntity, 5) = count + 1
  outstanding : state.outstanding = []
  link : state.link = []
  executing : state.target.executing = [firstWrite]
  queue : state.target.queue = []
  record : ∃ record, state.target.records firstWrite.key = some record ∧ record.response = none
  others : ∀ key, key ≠ firstWrite.key → state.target.records key = none
  arrivals : ∀ arrival ∈ state.arrivals, arrival.request.sequence ≤ count

theorem abandoned_zero : ∃ state, Abandoned 0 state := by
  obtain ⟨state, reached, seen⟩ := exists_of_execute
    (show (execute (step ⟨10, 1, 4096⟩) always
      [.send someEntity 5 1 .write, .deliver 0, .tick 10, .timeout 0, .deliver 0, .tick 10,
        .timeout 0] {}).map
          (fun state => state.next (someEntity, 5) == 1 && state.outstanding.isEmpty &&
            state.link.isEmpty && state.target.queue.isEmpty &&
            state.target.executing == [firstWrite] &&
            state.target.touches.all (fun touched => touched.1 == firstWrite.key) &&
            state.target.unanswered.all (fun key => key == firstWrite.key) &&
            state.arrivals.all fun arrival => arrival.request.sequence == 0) =
              some true by decide +kernel)
  simp only [Bool.and_eq_true, List.all_eq_true, beq_iff_eq, List.isEmpty_iff] at seen
  obtain ⟨⟨⟨⟨⟨⟨⟨next, outstanding⟩, link⟩, queue⟩, executing⟩, touches⟩, unanswered⟩, arrivals⟩ :=
    seen
  have sound := sound_of_reaches reached
  refine ⟨state, reached, next, outstanding, link, executing, queue, ?_, ?_, ?_⟩
  · exact sound.executing firstWrite (by rw [executing]; exact List.mem_singleton.mpr rfl) rfl
  · intro key different
    by_contra present
    obtain ⟨record, there⟩ := Option.ne_none_iff_exists'.mp present
    cases answered : record.response with
    | none => exact different (unanswered key (sound.waiting key record there answered))
    | some response =>
        obtain ⟨time, touched, _⟩ := sound.expires key record response there answered
        exact different (touches _ touched)
  · intro arrival membership
    exact Nat.le_of_eq (arrivals arrival membership)

/-- One SEND more. -/
theorem Abandoned.send {count : Nat} {state : State} (abandoned : Abandoned count state)
    (few : count + 1 < 2 ^ 16) : ∃ next, Abandoned (count + 1) next := by
  obtain ⟨request, made⟩ : ∃ request : Request, request = ⟨someEntity, 5, count + 1, 2, .send⟩ :=
    ⟨_, rfl⟩
  obtain ⟨response, answer⟩ : ∃ response : Response,
      response = ⟨state.target.nextSerial, request, .taack, 0, false⟩ := ⟨_, rfl⟩
  have kind : request.opcode = .send := by rw [made]
  have elsewhere : request.key ≠ firstWrite.key := by
    rw [made]
    intro same
    have number : (UInt16.ofNat (count + 1)).toNat = (UInt16.ofNat 0).toNat :=
      congrArg (fun key : RequestKey => key.2.2.toNat) same
    simp only [UInt16.toNat_ofNat'] at number
    omega
  have sent : step ⟨10, 1, 4096⟩ state (.send someEntity 5 2 .send) = some { state with
      next := Function.update state.next (someEntity, 5) (count + 2)
      outstanding := [(request, 0)]
      link := [.request request] } := by
    simp [step, abandoned.next, abandoned.outstanding, abandoned.link, made]
  let expired := state.target.expireRecords state.now
  have unrecorded : ∀ key, key ≠ firstWrite.key → expired.records key = none := by
    intro key different
    simp [expired, Target.expireRecords, abandoned.others key different]
  have dispatched : state.target.dispatchInboundTransaction ⟨10, 1, 4096⟩ state.now request =
      (true, { expired with executing := [firstWrite, request] }) := by
    have executing : (state.target.expireRecords state.now).executing = [firstWrite] :=
      abandoned.executing
    simp [Target.dispatchInboundTransaction, kind, Opcode.reliable, executing, expired]
  have responded : Target.respond ⟨10, 1, 4096⟩ state.now
      { expired with executing := [firstWrite, request] } 1 .taack 0 false =
        some { expired with
          executing := [firstWrite]
          nextSerial := state.target.nextSerial + 1
          queue := [⟨response, false⟩] } := by
    have queue : expired.queue = [] := abandoned.queue
    have serial : expired.nextSerial = state.target.nextSerial := rfl
    simp [Target.respond, Response.cached, kind, Target.sendResponseSegment,
      unrecorded _ elsewhere, queue, serial, answer]
  have left : Target.actuallySent ⟨10, 1, 4096⟩ state.now { expired with
      executing := [firstWrite]
      nextSerial := state.target.nextSerial + 1
      queue := [⟨response, false⟩] } 0 =
        some (response, { expired with
          executing := [firstWrite]
          nextSerial := state.target.nextSerial + 1
          queue := [] }) := by
    simp [Target.actuallySent, Target.untrack]
  have completed : completeFromTaAck [(request, 0)] response = [] := by
    simp [completeFromTaAck, answer]
  have arrived := (abandoned.reached.tail sent trivial).tail
    (show step ⟨10, 1, 4096⟩ _ (.deliver 0) = some _ by
      simp only [step, List.getElem?_cons_zero, dispatched]
      rfl) trivial
  have answered := arrived.tail
    (show step ⟨10, 1, 4096⟩ _ (.respond 1 .taack 0 false) = some _ by
      simp only [step, responded]
      rfl) trivial
  have queued := answered.tail
    (show step ⟨10, 1, 4096⟩ _ (.actuallySent 0) = some _ by
      simp only [step, left]
      rfl) trivial
  have ended := queued.tail
    (show step ⟨10, 1, 4096⟩ _ (.deliver 0) = some _ by
      simp only [step]
      rfl) trivial
  refine ⟨_, ended, by simp, completed, rfl, rfl, rfl, ?_, unrecorded, ?_⟩
  · obtain ⟨record, there, blank⟩ := abandoned.record
    exact ⟨record, Target.expireRecords_eq_some.mpr ⟨there, by simp [blank]⟩, blank⟩
  · intro arrival membership
    rcases List.mem_append.mp membership with old | new
    · exact Nat.le_succ_of_le (abandoned.arrivals arrival old)
    · obtain rfl := List.mem_singleton.mp new
      simp [made]

theorem abandoned_all {count : Nat} (few : count < 2 ^ 16) : ∃ state, Abandoned count state := by
  induction count with
  | zero => exact abandoned_zero
  | succ count inductionHypothesis =>
      obtain ⟨state, abandoned⟩ := inductionHypothesis (by omega)
      exact abandoned.send few

/-- The number of the first WRITE comes round, and the new WRITE finds its record. -/
theorem reused_number_suppressed :
    ¬ ∀ state, Reaches (step ⟨10, 1, 4096⟩) always {} state → NeverSuppressed state := by
  intro never
  obtain ⟨state, abandoned⟩ := abandoned_all (show 2 ^ 16 - 1 < 2 ^ 16 by omega)
  obtain ⟨request, made⟩ : ∃ request : Request, request = ⟨someEntity, 5, 2 ^ 16, 2, .write⟩ :=
    ⟨_, rfl⟩
  have key : request.key = firstWrite.key := by
    rw [made]
    rfl
  have kind : request.opcode = .write := by rw [made]
  have sent : step ⟨10, 1, 4096⟩ state (.send someEntity 5 2 .write) = some { state with
      next := Function.update state.next (someEntity, 5) (2 ^ 16 + 1)
      outstanding := [(request, 0)]
      link := [.request request] } := by
    simp [step, abandoned.next, abandoned.outstanding, abandoned.link, made]
  obtain ⟨record, there, blank⟩ := abandoned.record
  have kept : (state.target.expireRecords state.now).records request.key = some record := by
    rw [key]
    exact Target.expireRecords_eq_some.mpr ⟨there, by simp [blank]⟩
  have dropped : state.target.dispatchInboundTransaction ⟨10, 1, 4096⟩ state.now request =
      (false, (state.target.expireRecords state.now).touch request.key state.now) := by
    simp [Target.dispatchInboundTransaction, kind, Opcode.reliable, kept, blank]
  have arrived := (abandoned.reached.tail sent trivial).tail
    (show step ⟨10, 1, 4096⟩ _ (.deliver 0) = some _ by
      simp only [step, List.getElem?_cons_zero, dropped]
      rfl) trivial
  have executed := never _ arrived _ (List.mem_append_right _ (List.mem_singleton.mpr rfl))
  have fresh : State.fresh { state with
      next := Function.update state.next (someEntity, 5) (2 ^ 16 + 1)
      outstanding := [(request, 0)]
      link := [.request request] } request = true := by
    simp only [State.fresh, Bool.and_eq_true, List.all_eq_true, bne_iff_ne]
    refine ⟨?_, by simp⟩
    intro arrival membership same
    have earlier := abandoned.arrivals arrival membership
    rw [same, made] at earlier
    dsimp only at earlier
    omega
  exact Bool.noConfusion (executed fresh)

end Udma.Ctp
