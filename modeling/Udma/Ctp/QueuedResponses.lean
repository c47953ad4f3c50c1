import Mathlib
import Udma.Collections.Table
import Udma.Ctp.Duplicates

/-!
# The count of queued responses

The target of the transport with the packets of its responses.  `TrackQueuedResponse` enters
every packet of a cached response into `m_queuedResponses` and counts it in the record of the
request; the packet is taken off the count when it is sent or discarded.  While the count is
not zero, duplicates are not answered again and the record does not expire.  Requests find the
same records here as in the whole system.
-/

namespace Udma.Ctp.Queued

open Udma.Collections Udma.Transition

/-! ## Records and packets -/

/-- `CtpRequestKey`. -/
abbrev Key := EntityKey × UInt32 × UInt32

structure Request where
  entity : EntityKey
  originJettyNum : UInt32
  requestTassn : UInt32
  opcode : Opcode
  deriving DecidableEq

/-- `receiveKey`. -/
def Request.key (request : Request) : Key :=
  (request.entity, request.originJettyNum, request.requestTassn)

/-- A response segment; `serial` tells it from the others, as its address does.  It keeps the
origin Jetty and the number of its request, and its payload takes a number of packets. -/
structure Response where
  serial : Nat
  request : Request
  opcode : Opcode
  remoteAbort : Bool
  payloadBytes : UInt32
  packets : Fin (2 ^ 32)
  deriving DecidableEq

/-- It is answered by one acknowledgement packet. -/
def Response.acknowledges (response : Response) : Bool :=
  response.opcode == .taack || response.remoteAbort

/-- `cacheResponse`, of a READ or WRITE request. -/
def Response.cached (response : Response) : Bool :=
  (response.request.opcode == .write && response.opcode == .taack) ||
    (response.request.opcode == .read && response.opcode == .readResponse)

/-- `ReceivedRmaRecord`; `birth` is history and says how many executions there were before
the one it was made for. -/
structure Record where
  response : Option Response := none
  expires : Nat := 0
  queued : Nat := 0
  birth : Nat
  deriving DecidableEq

/-- `QueuedResponse`; `replay` is history and says that a duplicate has queued it. -/
structure QueuedResponse where
  key : Key
  response : Response
  replay : Bool
  deriving DecidableEq

/-- `m_queuedResponses`, by the number of the packet. -/
abbrev Queue := AList fun _ : Nat => QueuedResponse

structure State where
  now : Nat := 0
  records : Key → Option Record := fun _ => none
  queuedResponses : Queue := ∅
  executing : List Request := []
  dropNextTaAck : Bool := false
  dropNextReadResponse : Bool := false
  /-- The number that the next packet of the node gets. -/
  nextUid : Nat := 0
  nextSerial : Nat := 0
  /-- History: the requests that were handed to the target. -/
  executed : List Request := []

namespace State

def setRecord (state : State) (key : Key) (record : Record) : State :=
  { state with records := Function.update state.records key (some record) }

/-- `RequestActuallySent`, for a packet that may carry a response. -/
def requestActuallySent (config : Config) (state : State) (uid : Nat) : State :=
  match state.queuedResponses.lookup uid with
  | none => state
  | some queued =>
      let sent := { state with queuedResponses := state.queuedResponses.erase uid }
      match state.records queued.key with
      | none => sent
      | some record =>
          if record.response = some queued.response then
            sent.setRecord queued.key { record with
              queued := (record.queued + (2 ^ 32 - 1)) % 2 ^ 32
              expires := state.now + config.horizon }
          else sent

/-- `ResponseDiscardedBeforeSend`. -/
def responseDiscardedBeforeSend (state : State) (uid : Nat) : Option State :=
  match state.queuedResponses.lookup uid with
  | none => some state
  | some queued =>
      let gone := { state with queuedResponses := state.queuedResponses.erase uid }
      match state.records queued.key with
      | none => some gone
      | some record =>
          if record.response = some queued.response then
            if record.queued = 0 then none
            else some (gone.setRecord queued.key { record with queued := record.queued - 1 })
          else some gone

/-- `TrackQueuedResponse`, for a packet that has just been built. -/
def trackQueuedResponse (state : State) (replay : Bool) (response : Response) : Option State :=
  let built := { state with nextUid := state.nextUid + 1 }
  match state.records response.request.key with
  | none => some built
  | some record =>
      if record.response ≠ some response then some built
      else if state.nextUid ∈ state.queuedResponses then none
      else some { built.setRecord response.request.key
            { record with queued := (record.queued + 1) % 2 ^ 32 } with
          queuedResponses := state.queuedResponses.insert state.nextUid
            ⟨response.request.key, response, replay⟩ }

/-- The packets of a response, one after the other.  `TriggerTransmit` follows each, and the
ports may send packets right there: `sends` has the numbers of those. -/
def queuePackets (config : Config) (replay : Bool) (response : Response) :
    Nat → List (List Nat) → State → Option State
  | 0, _, state => some state
  | count + 1, sends, state =>
      (state.trackQueuedResponse replay response).bind fun queued =>
        queuePackets config replay response count sends.tail
          ((sends.headD []).foldl (requestActuallySent config) queued)

/-- `SendResponseSegment`. -/
def sendResponseSegment (config : Config) (state : State) (replay : Bool) (response : Response)
    (sends : List (List Nat)) : Option State :=
  queuePackets config replay response (if response.acknowledges then 1 else response.packets)
    sends state

/-- `ReplayResponseSegment`. -/
def replayResponseSegment (config : Config) (state : State) (response : Response)
    (sends : List (List Nat)) : Option State :=
  if response.acknowledges then state.sendResponseSegment config true response sends
  else if response.opcode ≠ .readResponse ∨ response.payloadBytes = 0 ∨
      config.maxSegmentBytes < response.payloadBytes.toNat then some state
  else queuePackets config true response 1 sends state

/-- The loop over all records. -/
def expireRecords (state : State) : State :=
  { state with
    records := fun key =>
      (state.records key).filter fun record =>
        !(record.response.isSome && record.queued == 0 && decide (record.expires ≤ state.now)) }

def execute (state : State) (request : Request) : State :=
  { state with
    executing := state.executing ++ [request]
    executed := state.executed ++ [request] }

/-- `DispatchInboundTransaction`. -/
def dispatchInboundTransaction (config : Config) (state : State) (request : Request)
    (sends : List (List Nat)) : Option State :=
  let state := state.expireRecords
  if request.opcode.reliable then
    match state.records request.key with
    | none =>
        some ((state.setRecord request.key { birth := state.executed.length }).execute request)
    | some record =>
        match record.response with
        | none => some state
        | some response =>
            let state := state.setRecord request.key
              { record with expires := state.now + config.horizon }
            if record.queued ≠ 0 then some state
            else state.replayResponseSegment config response sends
  else some (state.execute request)

/-- `record.response` and `record.expires` of the sink; `operator[]` makes a record when there
is none. -/
def cacheResponse (config : Config) (state : State) (response : Response) : State :=
  let record := (state.records response.request.key).getD { birth := state.executed.length }
  state.setRecord response.request.key
    { record with
      response := some response
      expires := state.now + config.horizon }

/-- The sink, when the execution at `index` ends with a response. -/
def respond (config : Config) (state : State) (index : Nat) (opcode : Opcode)
    (remoteAbort : Bool) (payloadBytes : UInt32) (packets : Fin (2 ^ 32))
    (sends : List (List Nat)) : Option State :=
  match state.executing[index]? with
  | none => none
  | some request =>
      let response : Response :=
        ⟨state.nextSerial, request, opcode, remoteAbort, payloadBytes, packets⟩
      let state := { state with
        executing := state.executing.eraseIdx index
        nextSerial := state.nextSerial + 1 }
      if response.cached then
        let state := state.cacheResponse config response
        if request.opcode == .write && state.dropNextTaAck then
          some { state with dropNextTaAck := false }
        else if request.opcode == .read && state.dropNextReadResponse then
          some { state with dropNextReadResponse := false }
        else state.sendResponseSegment config false response sends
      else state.sendResponseSegment config false response sends

end State

/-! ## The machine -/

inductive Event where
  | tick (time : Nat)
  | arrive (request : Request) (sends : List (List Nat))
  | respond (index : Nat) (opcode : Opcode) (remoteAbort : Bool) (payloadBytes : UInt32)
      (packets : Fin (2 ^ 32)) (sends : List (List Nat))
  /-- The target gives an execution up. -/
  | lost (index : Nat)
  | sent (uid : Nat)
  | discarded (uid : Nat)
  /-- The node builds a packet that carries no response. -/
  | built
  | dropNext (taAck readResponse : Bool)

/-- One call; `none` when it aborts, or when there is no such execution. -/
def step (config : Config) (state : State) : Event → Option State
  | .tick time => some { state with now := state.now + time }
  | .arrive request sends => state.dispatchInboundTransaction config request sends
  | .respond index opcode remoteAbort payloadBytes packets sends =>
      state.respond config index opcode remoteAbort payloadBytes packets sends
  | .lost index => some { state with executing := state.executing.eraseIdx index }
  | .sent uid => some (state.requestActuallySent config uid)
  | .discarded uid => state.responseDiscardedBeforeSend uid
  | .built => some { state with nextUid := state.nextUid + 1 }
  | .dropNext taAck readResponse => some { state with
      dropNextTaAck := taAck
      dropNextReadResponse := readResponse }

/-- The executions that events speak of are there. -/
def Event.Occurs (state : State) : Event → Prop
  | .respond index .. => index < state.executing.length
  | _ => True

/-! ## Counting -/

/-- The packets that name the record of a key, and those of them that duplicates have queued. -/
def entries (queue : Queue) (key : Key) : Nat :=
  tableTotal (fun queued => if queued.key = key then 1 else 0) queue

def replays (queue : Queue) (key : Key) : Nat :=
  tableTotal (fun queued => if queued.key = key ∧ queued.replay = true then 1 else 0) queue

section Counting

variable {queue : Queue} {uid : Nat} {queued : QueuedResponse} {key : Key}

theorem entries_insert (absent : uid ∉ queue) (queued : QueuedResponse) (key : Key) :
    entries (queue.insert uid queued) key =
      entries queue key + if queued.key = key then 1 else 0 := by
  have missing : queue.lookup uid = none := AList.lookup_eq_none.mpr absent
  rw [entries, tableTotal_insert, tableTotal_erase_of_none _ missing, Nat.add_comm]
  rfl

theorem replays_insert (absent : uid ∉ queue) (queued : QueuedResponse) (key : Key) :
    replays (queue.insert uid queued) key =
      replays queue key + if queued.key = key ∧ queued.replay = true then 1 else 0 := by
  have missing : queue.lookup uid = none := AList.lookup_eq_none.mpr absent
  rw [replays, tableTotal_insert, tableTotal_erase_of_none _ missing, Nat.add_comm]
  rfl

theorem entries_erase (held : queue.lookup uid = some queued) (key : Key) :
    entries queue key = (if queued.key = key then 1 else 0) + entries (queue.erase uid) key :=
  tableTotal_of_lookup _ held

theorem replays_erase_le (held : queue.lookup uid = some queued) (key : Key) :
    replays (queue.erase uid) key ≤ replays queue key := by
  have whole : replays queue key =
      (if queued.key = key ∧ queued.replay = true then 1 else 0) + replays (queue.erase uid) key :=
    tableTotal_of_lookup _ held
  omega

theorem replays_le_entries (queue : Queue) (key : Key) : replays queue key ≤ entries queue key := by
  unfold replays entries tableTotal
  refine List.sum_le_sum fun entry _ => ?_
  by_cases same : entry.2.key = key
  · by_cases replay : entry.2.replay = true <;> simp [same, replay]
  · simp [same]

theorem entries_pos (held : queue.lookup uid = some queued) : 0 < entries queue queued.key := by
  rw [entries_erase held, if_pos rfl]
  omega

/-- A key that no packet names. -/
theorem entries_eq_zero
    (unnamed : ∀ uid queued, queue.lookup uid = some queued → queued.key ≠ key) :
    entries queue key = 0 := by
  unfold entries tableTotal
  refine List.sum_eq_zero fun weight listed => ?_
  obtain ⟨⟨uid, queued⟩, held, rfl⟩ := List.mem_map.mp listed
  exact if_neg (unnamed uid queued (AList.mem_lookup_iff.mpr held))

end Counting

/-! ## What a call leaves alone -/

namespace State

variable {config : Config} {state after : State} {key other : Key} {record found : Record}

/-- What a record is for: its response, and when it was made. -/
def face (state : State) (key : Key) : Option (Option Response × Nat) :=
  (state.records key).map fun record => (record.response, record.birth)

theorem face_of_record (there : state.records key = some record) :
    state.face key = some (record.response, record.birth) := by
  rw [face, there]
  rfl

theorem exists_record_of_face {answer : Option Response} {birth : Nat}
    (seen : state.face key = some (answer, birth)) :
    ∃ record, state.records key = some record ∧ record.response = answer ∧
      record.birth = birth := by
  obtain ⟨record, there, same⟩ := Option.map_eq_some_iff.mp seen
  exact ⟨record, there, congrArg Prod.fst same, congrArg Prod.snd same⟩

@[simp]
theorem setRecord_self : (state.setRecord key record).records key = some record :=
  Function.update_self ..

theorem setRecord_of_ne (different : other ≠ key) :
    (state.setRecord key record).records other = state.records other :=
  Function.update_of_ne different ..

theorem setRecord_cases (there : (state.setRecord key record).records other = some found) :
    (other = key ∧ record = found) ∨ (other ≠ key ∧ state.records other = some found) := by
  by_cases same : other = key
  · subst same
    rw [setRecord_self, Option.some.injEq] at there
    exact .inl ⟨rfl, there⟩
  · rw [setRecord_of_ne same] at there
    exact .inr ⟨same, there⟩

theorem face_setRecord {old : Record} (there : state.records key = some old)
    (answered : record.response = old.response) (born : record.birth = old.birth) :
    (state.setRecord key record).face = state.face := by
  funext other
  by_cases same : other = key
  · subst same
    rw [face_of_record setRecord_self, face_of_record there, answered, born]
  · rw [face, face, setRecord_of_ne same]

theorem births_cacheResponse {response : Response} (key : Key) (record : Record)
    (there : state.records key = some record) :
    ∃ next, (state.cacheResponse config response).records key = some next ∧
      next.birth = record.birth := by
  by_cases same : key = response.request.key
  · subst same
    exact ⟨_, setRecord_self, by simp only [there, Option.getD_some]⟩
  · exact ⟨record, (setRecord_of_ne same).trans there, rfl⟩

theorem expireRecords_eq_some :
    state.expireRecords.records key = some record ↔
      state.records key = some record ∧
        ¬ (record.response.isSome = true ∧ record.queued = 0 ∧ record.expires ≤ state.now) := by
  simp only [expireRecords, Option.filter_eq_some_iff, Bool.not_eq_true', Bool.eq_false_iff,
    ne_eq, Bool.and_eq_true, beq_iff_eq, decide_eq_true_eq, and_assoc]

/-- The record is still there, or was there to be expired. -/
def Keeps (state after : State) : Prop :=
  ∀ key record, state.records key = some record →
    (∃ next, after.records key = some next ∧ next.birth = record.birth) ∨
      (record.response.isSome = true ∧ record.queued = 0 ∧ record.expires ≤ state.now)

theorem births_of_face (same : after.face = state.face) (key : Key) (record : Record)
    (there : state.records key = some record) :
    ∃ next, after.records key = some next ∧ next.birth = record.birth := by
  have seen := face_of_record there
  rw [← same] at seen
  obtain ⟨next, found, _, born⟩ := exists_record_of_face seen
  exact ⟨next, found, born⟩

theorem Keeps.of_face (same : after.face = state.face) : Keeps state after :=
  fun key record there => .inl (births_of_face same key record there)

/-- Records are expired, and the rest of the call keeps them. -/
theorem Keeps.of_expireRecords {state after : State}
    (later : ∀ key record, state.expireRecords.records key = some record →
      ∃ next, after.records key = some next ∧ next.birth = record.birth) :
    Keeps state after := by
  intro key record there
  by_cases expired :
      record.response.isSome = true ∧ record.queued = 0 ∧ record.expires ≤ state.now
  · exact .inr expired
  · exact .inl (later key record (expireRecords_eq_some.mpr ⟨there, expired⟩))

end State

/-! ## The records and the packets agree -/

/-- The executions of a reliable request with a key. -/
def executions (executed : List Request) (key : Key) : Nat :=
  executed.countP fun request => request.opcode.reliable && decide (request.key = key)

structure Sound (state : State) : Prop where
  waiting : ∀ request ∈ state.executing, request.opcode.reliable = true →
    ∃ record, state.records request.key = some record ∧ record.response = none
  alone : ((state.executing.filter fun request => request.opcode.reliable).map
    Request.key).Nodup
  own : ∀ key record response, state.records key = some record →
    record.response = some response →
      response.request.key = key ∧ response.serial < state.nextSerial
  current : ∀ uid queued, state.queuedResponses.lookup uid = some queued →
    ∃ record, state.records queued.key = some record ∧ record.response = some queued.response
  counted : ∀ key record, state.records key = some record →
    record.queued = entries state.queuedResponses key
  few : ∀ key, entries state.queuedResponses key < 2 ^ 32
  replayed : ∀ key, replays state.queuedResponses key ≤ 1
  uids : ∀ uid queued, state.queuedResponses.lookup uid = some queued → uid < state.nextUid
  once : ∀ key record, state.records key = some record →
    record.birth ≤ state.executed.length ∧
      executions (state.executed.drop record.birth) key = 1

namespace Sound

section Records

open Queued.State

variable {state after : State} {key : Key} {record : Record}

theorem initial : Sound {} where
  waiting := by simp
  alone := by simp
  own := by simp
  current := by simp
  counted := by simp
  few := by simp [entries]
  replayed := by simp [replays]
  uids := by simp
  once := by simp

/-- A packet in the queue is counted. -/
theorem queued_pos (sound : Sound state) {uid : Nat} {queued : QueuedResponse}
    (held : state.queuedResponses.lookup uid = some queued)
    (there : state.records queued.key = some record) : 0 < record.queued := by
  rw [sound.counted queued.key record there]
  exact entries_pos held

/-- No packet names a record that holds no response. -/
theorem unnamed (sound : Sound state) (empty : ∀ record, state.records key = some record →
    record.response = none) : entries state.queuedResponses key = 0 := by
  refine entries_eq_zero fun uid queued held same => ?_
  obtain ⟨record, there, answered⟩ := sound.current uid queued held
  rw [same] at there
  simp [empty record there] at answered

theorem expireRecords (sound : Sound state) : Sound state.expireRecords where
  waiting := by
    intro request running reliable
    obtain ⟨record, there, empty⟩ := sound.waiting request running reliable
    exact ⟨record, expireRecords_eq_some.mpr ⟨there, by simp [empty]⟩, empty⟩
  alone := sound.alone
  own := fun key record response there =>
    sound.own key record response (expireRecords_eq_some.mp there).1
  current := by
    intro uid queued held
    obtain ⟨record, there, answered⟩ := sound.current uid queued held
    refine ⟨record, expireRecords_eq_some.mpr ⟨there, fun expired => ?_⟩, answered⟩
    exact absurd expired.2.1 (sound.queued_pos held there).ne'
  counted := fun key record there => sound.counted key record (expireRecords_eq_some.mp there).1
  few := sound.few
  replayed := sound.replayed
  uids := sound.uids
  once := fun key record there => sound.once key record (expireRecords_eq_some.mp there).1

/-- One record and the packets that name it change, and the record is for the same as before. -/
theorem exchange (sound : Sound state) {old : Record} (queue : Queue) (nextUid : Nat)
    (there : state.records key = some old) (answered : record.response = old.response)
    (born : record.birth = old.birth)
    (current : ∀ uid queued, queue.lookup uid = some queued →
      state.queuedResponses.lookup uid = some queued ∨
        (queued.key = key ∧ old.response = some queued.response))
    (counted : record.queued = entries queue key)
    (others : ∀ other, other ≠ key → entries queue other = entries state.queuedResponses other)
    (few : entries queue key < 2 ^ 32) (replayed : ∀ other, replays queue other ≤ 1)
    (uids : ∀ uid queued, queue.lookup uid = some queued → uid < nextUid) :
    Sound { state.setRecord key record with queuedResponses := queue, nextUid := nextUid } where
  waiting := by
    intro request running reliable
    obtain ⟨found, held, empty⟩ := sound.waiting request running reliable
    by_cases same : request.key = key
    · rw [same, there, Option.some.injEq] at held
      rw [same]
      exact ⟨record, setRecord_self, by rw [answered, held, empty]⟩
    · exact ⟨found, (setRecord_of_ne same).trans held, empty⟩
  alone := sound.alone
  own := by
    intro other found response held holds
    rcases setRecord_cases held with ⟨rfl, rfl⟩ | ⟨_, held⟩
    · exact sound.own other old response there (answered ▸ holds)
    · exact sound.own other found response held holds
  current := by
    intro uid queued held
    have named : ∃ found, state.records queued.key = some found ∧
        found.response = some queued.response := by
      rcases current uid queued held with earlier | ⟨same, holds⟩
      · exact sound.current uid queued earlier
      · exact ⟨old, same ▸ there, holds⟩
    obtain ⟨found, seen, holds⟩ := named
    by_cases same : queued.key = key
    · rw [same, there, Option.some.injEq] at seen
      rw [same]
      exact ⟨record, setRecord_self, by rw [answered, seen, holds]⟩
    · exact ⟨found, (setRecord_of_ne same).trans seen, holds⟩
  counted := by
    intro other found held
    rcases setRecord_cases held with ⟨rfl, rfl⟩ | ⟨different, held⟩
    · exact counted
    · exact (sound.counted other found held).trans (others other different).symm
  few := by
    intro other
    by_cases same : other = key
    · exact same ▸ few
    · exact (others other same).symm ▸ sound.few other
  replayed := replayed
  uids := uids
  once := by
    intro other found held
    rcases setRecord_cases held with ⟨rfl, rfl⟩ | ⟨_, held⟩
    · exact born ▸ sound.once other old there
    · exact sound.once other found held

/-- A packet leaves the queue, and the record counts one less. -/
theorem leave (sound : Sound state) {uid : Nat} {queued : QueuedResponse} {old : Record}
    (held : state.queuedResponses.lookup uid = some queued)
    (there : state.records queued.key = some old) (answered : record.response = old.response)
    (born : record.birth = old.birth) (less : record.queued = old.queued - 1) :
    Sound { state.setRecord queued.key record with
      queuedResponses := state.queuedResponses.erase uid } := by
  have whole := entries_erase held queued.key
  rw [if_pos rfl] at whole
  have before := sound.counted queued.key old there
  have kept : ∀ other found, (state.queuedResponses.erase uid).lookup other = some found →
      state.queuedResponses.lookup other = some found := by
    intro other found seen
    by_cases same : other = uid
    · subst same
      simp at seen
    · rwa [AList.lookup_erase_ne same] at seen
  refine sound.exchange _ state.nextUid there answered born
    (fun other found seen => .inl (kept other found seen)) (by omega) ?_ ?_ ?_
    (fun other found seen => sound.uids other found (kept other found seen))
  · intro other different
    rw [entries_erase held other, if_neg (Ne.symm different), Nat.zero_add]
  · have bound := sound.few queued.key
    omega
  · exact fun other => (replays_erase_le held other).trans (sound.replayed other)

end Records

section Packets

open Queued.State

variable {config : Config} {state after : State} {uid : Nat} {response : Response}
  {replay : Bool}

/-- The packet is sent, or there is nothing to do. -/
theorem requestActuallySent_cases (sound : Sound state) (config : Config) (uid : Nat) :
    (state.queuedResponses.lookup uid = none ∧ state.requestActuallySent config uid = state) ∨
    ∃ queued record, state.queuedResponses.lookup uid = some queued ∧
      state.records queued.key = some record ∧
      state.requestActuallySent config uid =
        { state.setRecord queued.key { record with
            queued := record.queued - 1
            expires := state.now + config.horizon } with
          queuedResponses := state.queuedResponses.erase uid } := by
  cases held : state.queuedResponses.lookup uid with
  | none => exact .inl ⟨rfl, by simp only [State.requestActuallySent, held]⟩
  | some queued =>
      obtain ⟨record, there, answered⟩ := sound.current uid queued held
      have positive := sound.queued_pos held there
      have bound : record.queued < 2 ^ 32 := by
        rw [sound.counted queued.key record there]
        exact sound.few queued.key
      -- the decrement of the record does not wrap
      have less : (record.queued + (2 ^ 32 - 1)) % 2 ^ 32 = record.queued - 1 := by omega
      refine .inr ⟨queued, record, rfl, there, ?_⟩
      simp only [State.requestActuallySent, held, there, answered, if_true, less]
      rfl

theorem requestActuallySent (sound : Sound state) (config : Config) (uid : Nat) :
    Sound (state.requestActuallySent config uid) ∧
      (state.requestActuallySent config uid).face = state.face ∧
      (∀ key, entries (state.requestActuallySent config uid).queuedResponses key ≤
        entries state.queuedResponses key) ∧
      ∀ key, replays (state.requestActuallySent config uid).queuedResponses key ≤
        replays state.queuedResponses key := by
  rcases sound.requestActuallySent_cases config uid with
    ⟨_, same⟩ | ⟨queued, record, held, there, same⟩
  · rw [same]
    exact ⟨sound, rfl, fun _ => Nat.le_refl _, fun _ => Nat.le_refl _⟩
  · rw [same]
    refine ⟨sound.leave held there rfl rfl rfl, face_setRecord there rfl rfl, fun key => ?_,
      replays_erase_le held⟩
    have whole := entries_erase held key
    change entries (state.queuedResponses.erase uid) key ≤ _
    omega

theorem sends (sound : Sound state) (config : Config) (uids : List Nat) :
    Sound (uids.foldl (State.requestActuallySent config) state) ∧
      (uids.foldl (State.requestActuallySent config) state).face = state.face ∧
      (∀ key, entries (uids.foldl (State.requestActuallySent config) state).queuedResponses key ≤
        entries state.queuedResponses key) ∧
      ∀ key, replays (uids.foldl (State.requestActuallySent config) state).queuedResponses key ≤
        replays state.queuedResponses key := by
  induction uids generalizing state with
  | nil => exact ⟨sound, rfl, fun _ => Nat.le_refl _, fun _ => Nat.le_refl _⟩
  | cons uid rest inductionHypothesis =>
      obtain ⟨next, seen, fewer, less⟩ := sound.requestActuallySent config uid
      obtain ⟨last, same, fewest, least⟩ := inductionHypothesis next
      exact ⟨last, same.trans seen, fun key => (fewest key).trans (fewer key),
        fun key => (least key).trans (less key)⟩

theorem responseDiscardedBeforeSend (sound : Sound state) (uid : Nat) :
    ∃ after, state.responseDiscardedBeforeSend uid = some after ∧ Sound after ∧
      after.face = state.face := by
  cases held : state.queuedResponses.lookup uid with
  | none => exact ⟨state, by simp only [State.responseDiscardedBeforeSend, held], sound, rfl⟩
  | some queued =>
      obtain ⟨record, there, answered⟩ := sound.current uid queued held
      have positive := sound.queued_pos held there
      refine ⟨{ state.setRecord queued.key { record with queued := record.queued - 1 } with
          queuedResponses := state.queuedResponses.erase uid }, ?_,
        sound.leave held there rfl rfl rfl, face_setRecord there rfl rfl⟩
      simp only [State.responseDiscardedBeforeSend, held, there, answered, if_true,
        if_neg positive.ne']
      rfl

theorem build (sound : Sound state) : Sound { state with nextUid := state.nextUid + 1 } where
  waiting := sound.waiting
  alone := sound.alone
  own := sound.own
  current := sound.current
  counted := sound.counted
  few := sound.few
  replayed := sound.replayed
  uids := fun uid queued held => Nat.lt_succ_of_lt (sound.uids uid queued held)
  once := sound.once

/-- The record of the request holds the response. -/
def Tracked (state : State) (response : Response) : Prop :=
  ∃ birth, state.face response.request.key = some (some response, birth)

theorem trackQueuedResponse (sound : Sound state) (replay : Bool) (response : Response)
    (room : Tracked state response →
      entries state.queuedResponses response.request.key + 1 < 2 ^ 32)
    (first : Tracked state response → replay = true →
      replays state.queuedResponses response.request.key = 0) :
    ∃ after, state.trackQueuedResponse replay response = some after ∧ Sound after ∧
      after.face = state.face ∧
      entries after.queuedResponses response.request.key ≤
        entries state.queuedResponses response.request.key + 1 ∧
      replays after.queuedResponses response.request.key ≤
        replays state.queuedResponses response.request.key + replay.toNat := by
  have untracked : Sound { state with nextUid := state.nextUid + 1 } := sound.build
  cases there : state.records response.request.key with
  | none =>
      exact ⟨_, by simp only [State.trackQueuedResponse, there], untracked, rfl, Nat.le_succ _,
        Nat.le_add_right _ _⟩
  | some record =>
      by_cases answered : record.response = some response
      · have tracked : Tracked state response :=
          ⟨record.birth, by rw [face_of_record there, answered]⟩
        have absent : state.nextUid ∉ state.queuedResponses := by
          intro present
          obtain ⟨queued, held⟩ := Option.isSome_iff_exists.mp (AList.lookup_isSome.mpr present)
          exact Nat.lt_irrefl _ (sound.uids state.nextUid queued held)
        have counted := sound.counted response.request.key record there
        have bound := room tracked
        have more : (record.queued + 1) % 2 ^ 32 = record.queued + 1 := by
          rw [counted]
          exact Nat.mod_eq_of_lt bound
        have listed := entries_insert absent ⟨response.request.key, response, replay⟩
        have repeated := replays_insert absent ⟨response.request.key, response, replay⟩
        have here := listed response.request.key
        rw [if_pos rfl] at here
        refine ⟨{ state.setRecord response.request.key
              { record with queued := record.queued + 1 } with
            queuedResponses := state.queuedResponses.insert state.nextUid
              ⟨response.request.key, response, replay⟩
            nextUid := state.nextUid + 1 }, ?_, ?_, face_setRecord there rfl rfl, here.le, ?_⟩
        · rw [State.trackQueuedResponse, there]
          refine (if_neg (not_not.mpr answered)).trans ((if_neg absent).trans ?_)
          rw [more]
          rfl
        · refine sound.exchange _ (state.nextUid + 1) there rfl rfl ?_ ?_ ?_ ?_ ?_ ?_
          · intro uid queued held
            by_cases same : uid = state.nextUid
            · subst same
              rw [AList.lookup_insert, Option.some.injEq] at held
              subst held
              exact .inr ⟨rfl, answered⟩
            · rw [AList.lookup_insert_ne same] at held
              exact .inl held
          · rw [here, counted]
          · intro other different
            rw [listed other, if_neg (Ne.symm different), Nat.add_zero]
          · rw [here]
            exact bound
          · intro other
            rw [repeated other]
            by_cases copied : response.request.key = other ∧ replay = true
            · rw [if_pos copied, ← copied.1, first tracked copied.2]
            · rw [if_neg copied, Nat.add_zero]
              exact sound.replayed other
          · intro uid queued held
            by_cases same : uid = state.nextUid
            · exact same ▸ Nat.lt_succ_self _
            · rw [AList.lookup_insert_ne same] at held
              exact Nat.lt_succ_of_lt (sound.uids uid queued held)
        · refine (repeated response.request.key).le.trans (Nat.add_le_add_left ?_ _)
          cases replay <;> simp
      · exact ⟨_, by simp only [State.trackQueuedResponse, there, ne_eq, answered,
          not_false_eq_true, if_true], untracked, rfl, Nat.le_succ _, Nat.le_add_right _ _⟩

/-- The packets of a response: there is room for all of them, and at most one of them is the
replay. -/
theorem queuePackets (sound : Sound state) (replay : Bool) (response : Response) (count : Nat)
    (sends : List (List Nat))
    (room : Tracked state response →
      entries state.queuedResponses response.request.key + count < 2 ^ 32)
    (first : Tracked state response → replay = true →
      replays state.queuedResponses response.request.key + count ≤ 1) :
    ∃ after, State.queuePackets config replay response count sends state = some after ∧
      Sound after ∧ after.face = state.face := by
  induction count generalizing state sends with
  | zero => exact ⟨state, rfl, sound, rfl⟩
  | succ count inductionHypothesis =>
      obtain ⟨queued, tracked, next, seen, more, again⟩ :=
        sound.trackQueuedResponse replay response
          (fun held => by have := room held; omega)
          (fun held copied => by have := first held copied; omega)
      obtain ⟨calm, same, fewer, less⟩ := next.sends config (sends.headD [])
      have there : Tracked ((sends.headD []).foldl (State.requestActuallySent config) queued)
          response → Tracked state response := by
        rintro ⟨birth, held⟩
        exact ⟨birth, by rwa [same, seen] at held⟩
      obtain ⟨after, ran, last, kept⟩ := inductionHypothesis calm sends.tail
        (fun held => by
          have := room (there held)
          have := fewer response.request.key
          omega)
        (fun held copied => by
          have := first (there held) copied
          have := less response.request.key
          rw [copied] at again
          simp only [Bool.toNat_true] at again
          omega)
      refine ⟨after, ?_, last, kept.trans (same.trans seen)⟩
      rw [State.queuePackets, tracked, Option.bind_some, ran]

end Packets

section Requests

open Queued.State

variable {config : Config} {state : State} {request : Request} {record : Record}

theorem executions_drop {executed : List Request} {birth : Nat} (old : birth ≤ executed.length)
    (request : Request) (key : Key) :
    executions ((executed ++ [request]).drop birth) key =
      executions (executed.drop birth) key + executions [request] key := by
  rw [executions, List.drop_append_of_le_length old, List.countP_append]
  rfl

theorem executions_other {key : Key}
    (other : request.opcode.reliable = true → request.key ≠ key) :
    executions [request] key = 0 := by
  cases reliable : request.opcode.reliable with
  | false => simp [executions, reliable]
  | true => simp [executions, reliable, other reliable]

/-- A request of another kind is executed, whatever records there are. -/
theorem execute (sound : Sound state) (unreliable : request.opcode.reliable = false) :
    Sound (state.execute request) where
  waiting := by
    intro other running reliable
    rcases List.mem_append.mp running with earlier | new
    · exact sound.waiting other earlier reliable
    · rw [List.mem_singleton.mp new, unreliable] at reliable
      exact Bool.noConfusion reliable
  alone := by
    change ((((state.executing ++ [request]).filter _).map _).Nodup)
    rw [List.filter_append, List.filter_singleton, unreliable, Bool.cond_false, List.append_nil]
    exact sound.alone
  own := sound.own
  current := sound.current
  counted := sound.counted
  few := sound.few
  replayed := sound.replayed
  uids := sound.uids
  once := by
    intro key record there
    obtain ⟨old, one⟩ := sound.once key record there
    refine ⟨old.trans (by simp [State.execute]), ?_⟩
    change executions ((state.executed ++ [request]).drop record.birth) key = 1
    rw [executions_drop old, one, executions_other (by simp [unreliable])]

/-- A reliable request that finds no record. -/
theorem executeFirst (sound : Sound state) (reliable : request.opcode.reliable = true)
    (absent : state.records request.key = none) :
    Sound ((state.setRecord request.key { birth := state.executed.length }).execute request) := by
  have different : ∀ {key : Key} {record : Record}, state.records key = some record →
      key ≠ request.key := by
    rintro key record there rfl
    simp [absent] at there
  constructor
  case waiting =>
    intro other running wanted
    rcases List.mem_append.mp running with earlier | new
    · obtain ⟨record, there, empty⟩ := sound.waiting other earlier wanted
      exact ⟨record, (setRecord_of_ne (different there)).trans there, empty⟩
    · rw [List.mem_singleton.mp new]
      exact ⟨_, setRecord_self, rfl⟩
  case alone =>
    change ((((state.executing ++ [request]).filter _).map _).Nodup)
    rw [List.filter_append, List.filter_singleton, reliable, Bool.cond_true, List.map_append]
    refine List.nodup_append.mpr ⟨sound.alone, by simp, ?_⟩
    intro key earlier other new
    obtain ⟨running, listed, rfl⟩ := List.mem_map.mp earlier
    obtain ⟨executing, wanted⟩ := List.mem_filter.mp listed
    obtain ⟨record, there, _⟩ := sound.waiting running executing wanted
    rw [List.map_singleton, List.mem_singleton] at new
    exact new ▸ different there
  case own =>
    intro key record response there holds
    rcases setRecord_cases there with ⟨_, rfl⟩ | ⟨_, there⟩
    · exact absurd holds (by simp)
    · exact sound.own key record response there holds
  case current =>
    intro uid queued held
    obtain ⟨record, there, answered⟩ := sound.current uid queued held
    exact ⟨record, (setRecord_of_ne (different there)).trans there, answered⟩
  case counted =>
    intro key record there
    rcases setRecord_cases there with ⟨rfl, rfl⟩ | ⟨_, there⟩
    · exact (sound.unnamed (by simp [absent])).symm
    · exact sound.counted key record there
  case few => exact sound.few
  case replayed => exact sound.replayed
  case uids => exact sound.uids
  case once =>
    intro key record there
    have grown : (state.executed ++ [request]).length = state.executed.length + 1 := by simp
    rcases setRecord_cases there with ⟨rfl, rfl⟩ | ⟨other, there⟩
    · refine ⟨grown ▸ Nat.le_succ _, ?_⟩
      change executions ((state.executed ++ [request]).drop state.executed.length) _ = 1
      rw [executions_drop (Nat.le_refl _), List.drop_length]
      simp [executions, reliable]
    · obtain ⟨old, one⟩ := sound.once key record there
      refine ⟨grown ▸ Nat.le_succ_of_le old, ?_⟩
      change executions ((state.executed ++ [request]).drop record.birth) key = 1
      rw [executions_drop old, one, executions_other fun _ => other.symm]

/-- The expiry of a record is put off. -/
theorem refresh (sound : Sound state) {key : Key} (there : state.records key = some record)
    (expires : Nat) : Sound (state.setRecord key { record with expires := expires }) :=
  sound.exchange state.queuedResponses state.nextUid there rfl rfl
    (fun _ _ held => .inl held) (sound.counted key record there) (fun _ _ => rfl)
    (sound.few key) sound.replayed sound.uids

theorem replayResponseSegment (sound : Sound state) (config : Config) (response : Response)
    (sends : List (List Nat))
    (idle : entries state.queuedResponses response.request.key = 0) :
    ∃ after, state.replayResponseSegment config response sends = some after ∧ Sound after ∧
      after.face = state.face := by
  have unrepeated : replays state.queuedResponses response.request.key = 0 :=
    Nat.le_zero.mp (idle ▸ replays_le_entries ..)
  obtain ⟨after, ran, next, seen⟩ := sound.queuePackets true response 1 sends
    (fun _ => by rw [idle]; decide) (fun _ _ => by rw [unrepeated])
  unfold State.replayResponseSegment State.sendResponseSegment
  by_cases acknowledges : response.acknowledges = true
  · rw [if_pos acknowledges, if_pos acknowledges]
    exact ⟨after, ran, next, seen⟩
  · rw [if_neg acknowledges]
    by_cases refused : response.opcode ≠ .readResponse ∨ response.payloadBytes = 0 ∨
        config.maxSegmentBytes < response.payloadBytes.toNat
    · rw [if_pos refused]
      exact ⟨state, rfl, sound, rfl⟩
    · rw [if_neg refused]
      exact ⟨after, ran, next, seen⟩

/-- A request or a duplicate arrives. -/
theorem dispatchInboundTransaction (sound : Sound state) (config : Config) (request : Request)
    (sends : List (List Nat)) :
    ∃ after, state.dispatchInboundTransaction config request sends = some after ∧ Sound after ∧
      Keeps state after := by
  have expired := sound.expireRecords
  cases reliable : request.opcode.reliable with
  | false =>
      refine ⟨state.expireRecords.execute request, ?_, expired.execute reliable,
        .of_expireRecords fun key record there => ⟨record, there, rfl⟩⟩
      simp [State.dispatchInboundTransaction, reliable]
  | true =>
      cases there : state.expireRecords.records request.key with
      | none =>
          refine ⟨_, by simp only [State.dispatchInboundTransaction, reliable, there, if_true],
            expired.executeFirst reliable there, .of_expireRecords fun key record held => ?_⟩
          have other : key ≠ request.key := by
            rintro rfl
            simp [there] at held
          exact ⟨record, (setRecord_of_ne other).trans held, rfl⟩
      | some record =>
          obtain ⟨answer, expires, queued, birth⟩ := record
          cases answer with
          | none =>
              exact ⟨state.expireRecords,
                by simp only [State.dispatchInboundTransaction, reliable, there, if_true],
                expired, .of_expireRecords fun key record held => ⟨record, held, rfl⟩⟩
          | some response =>
              -- the record is refreshed before the queue is looked at
              have fresh := expired.refresh there (state.now + config.horizon)
              have seen : (state.expireRecords.setRecord request.key
                  ⟨some response, state.now + config.horizon, queued, birth⟩).face =
                    state.expireRecords.face := face_setRecord there rfl rfl
              have idle : queued = 0 →
                  entries state.expireRecords.queuedResponses response.request.key = 0 := by
                intro none
                rw [(expired.own request.key _ response there rfl).1, ← none]
                exact (expired.counted request.key _ there).symm
              simp only [State.dispatchInboundTransaction, reliable, there, if_true]
              by_cases pending : queued = 0
              · obtain ⟨after, ran, next, same⟩ :=
                  fresh.replayResponseSegment config response sends (idle pending)
                rw [if_neg (not_not.mpr pending)]
                exact ⟨after, ran, next, .of_expireRecords (births_of_face (same.trans seen))⟩
              · rw [if_pos pending]
                exact ⟨_, rfl, fresh, .of_expireRecords (births_of_face seen)⟩

end Requests

section Completions

open Queued.State

variable {config : Config} {state : State} {request : Request} {index : Nat}

theorem finish (sound : Sound state) (index : Nat) {serial : Nat}
    (later : state.nextSerial ≤ serial) :
    Sound { state with executing := state.executing.eraseIdx index, nextSerial := serial } where
  waiting := fun other running =>
    sound.waiting other ((List.eraseIdx_sublist state.executing index).subset running)
  alone := ((List.eraseIdx_sublist state.executing index).filter _ |>.map _).nodup sound.alone
  own := fun key record response there holds =>
    have ⟨same, older⟩ := sound.own key record response there holds
    ⟨same, older.trans_le later⟩
  current := sound.current
  counted := sound.counted
  few := sound.few
  replayed := sound.replayed
  uids := sound.uids
  once := sound.once

/-- The other executions are of other keys. -/
theorem distinct (sound : Sound state) (held : state.executing[index]? = some request)
    (reliable : request.opcode.reliable = true) {other : Request}
    (running : other ∈ state.executing.eraseIdx index)
    (wanted : other.opcode.reliable = true) : other.key ≠ request.key := by
  have alone := sound.alone
  rw [(((perm_cons_eraseIdx held).filter _).map _).nodup_iff,
    List.filter_cons, if_pos reliable, List.map_cons, List.nodup_cons] at alone
  exact fun same => alone.1 (same ▸ List.mem_map.mpr
    ⟨other, List.mem_filter.mpr ⟨running, wanted⟩, rfl⟩)

/-- The response is kept: no packet names the record, which had none. -/
theorem cacheResponse (sound : Sound state) {response : Response} {record : Record}
    (there : state.records response.request.key = some record) (empty : record.response = none)
    (own : response.serial < state.nextSerial)
    (gone : ∀ other ∈ state.executing, other.opcode.reliable = true →
      other.key ≠ response.request.key) : Sound (state.cacheResponse config response) := by
  have idle : entries state.queuedResponses response.request.key = 0 := by
    refine sound.unnamed fun found held => ?_
    rw [there, Option.some.injEq] at held
    exact held ▸ empty
  have shape : state.cacheResponse config response =
      state.setRecord response.request.key { record with
        response := some response
        expires := state.now + config.horizon } := by
    simp only [State.cacheResponse, there, Option.getD_some]
  rw [shape]
  constructor
  case waiting =>
    intro other running reliable
    obtain ⟨found, held, none⟩ := sound.waiting other running reliable
    exact ⟨found, (setRecord_of_ne (gone other running reliable)).trans held, none⟩
  case alone => exact sound.alone
  case own =>
    intro key found other held holds
    rcases setRecord_cases held with ⟨rfl, rfl⟩ | ⟨_, held⟩
    · obtain rfl := Option.some.inj holds
      exact ⟨rfl, own⟩
    · exact sound.own key found other held holds
  case current =>
    intro uid queued named
    obtain ⟨found, held, answered⟩ := sound.current uid queued named
    have other : queued.key ≠ response.request.key := by
      intro same
      have counted : 0 < entries state.queuedResponses queued.key := entries_pos named
      rw [same, idle] at counted
      exact Nat.lt_irrefl 0 counted
    exact ⟨found, (setRecord_of_ne other).trans held, answered⟩
  case counted =>
    intro key found held
    rcases setRecord_cases held with ⟨rfl, rfl⟩ | ⟨_, held⟩
    · exact sound.counted _ record there
    · exact sound.counted key found held
  case few => exact sound.few
  case replayed => exact sound.replayed
  case uids => exact sound.uids
  case once =>
    intro key found held
    rcases setRecord_cases held with ⟨rfl, rfl⟩ | ⟨_, held⟩
    · exact sound.once _ record there
    · exact sound.once key found held

theorem flags (sound : Sound state) (taAck readResponse : Bool) :
    Sound { state with dropNextTaAck := taAck, dropNextReadResponse := readResponse } where
  waiting := sound.waiting
  alone := sound.alone
  own := sound.own
  current := sound.current
  counted := sound.counted
  few := sound.few
  replayed := sound.replayed
  uids := sound.uids
  once := sound.once

theorem reliable_of_cached {response : Response} (cached : response.cached = true) :
    response.request.opcode.reliable = true := by
  unfold Response.cached at cached
  cases kind : response.request.opcode <;> simp_all [Opcode.reliable]

theorem packets_lt (response : Response) :
    (if response.acknowledges then 1 else (response.packets : Nat)) < 2 ^ 32 := by
  by_cases acknowledges : response.acknowledges = true
  · rw [if_pos acknowledges]
    decide
  · rw [if_neg acknowledges]
    exact response.packets.isLt

/-- The target ends an execution. -/
theorem respond (sound : Sound state) (config : Config) (opcode : Opcode) (remoteAbort : Bool)
    (payloadBytes : UInt32) (packets : Fin (2 ^ 32)) (sends : List (List Nat))
    (inside : index < state.executing.length) :
    ∃ after, state.respond config index opcode remoteAbort payloadBytes packets sends =
        some after ∧ Sound after ∧ Keeps state after := by
  obtain ⟨request, held⟩ : ∃ request, state.executing[index]? = some request :=
    ⟨_, List.getElem?_eq_getElem inside⟩
  have ended := sound.finish index (Nat.le_succ state.nextSerial)
  generalize named : (⟨state.nextSerial, request, opcode, remoteAbort, payloadBytes, packets⟩ :
    Response) = response
  have origin : response.request = request := named ▸ rfl
  have serial : response.serial = state.nextSerial := named ▸ rfl
  simp only [State.respond, held, named]
  by_cases cached : response.cached = true
  · have reliable : request.opcode.reliable = true := origin ▸ reliable_of_cached cached
    obtain ⟨record, there, empty⟩ :=
      sound.waiting request (List.mem_of_getElem? held) reliable
    rw [if_pos cached]
    have kept : Sound (State.cacheResponse config
        { state with
          executing := state.executing.eraseIdx index
          nextSerial := state.nextSerial + 1 } response) :=
      ended.cacheResponse (origin ▸ there) empty (serial ▸ Nat.lt_succ_self _)
        fun other running wanted => origin ▸ sound.distinct held reliable running wanted
    have idle : entries (State.cacheResponse config
        { state with
          executing := state.executing.eraseIdx index
          nextSerial := state.nextSerial + 1 } response).queuedResponses
            response.request.key = 0 :=
      sound.unnamed fun found named => by
        rw [origin, there, Option.some.injEq] at named
        exact named ▸ empty
    have births := @births_cacheResponse config { state with
      executing := state.executing.eraseIdx index
      nextSerial := state.nextSerial + 1 } response
    generalize State.cacheResponse config _ response = keeping at kept idle births ⊢
    have keeps : ∀ after : State, after.face = keeping.face → Keeps state after := by
      intro after same key record was
      obtain ⟨next, seen, born⟩ := births key record was
      obtain ⟨last, found, bears⟩ := births_of_face same key next seen
      exact .inl ⟨last, found, bears.trans born⟩
    by_cases dropTaAck : (request.opcode == .write && keeping.dropNextTaAck) = true
    · rw [if_pos dropTaAck]
      exact ⟨_, rfl, kept.flags false _, keeps _ rfl⟩
    rw [if_neg dropTaAck]
    by_cases dropRead : (request.opcode == .read && keeping.dropNextReadResponse) = true
    · rw [if_pos dropRead]
      exact ⟨_, rfl, kept.flags _ false, keeps _ rfl⟩
    rw [if_neg dropRead]
    obtain ⟨after, ran, next, seen⟩ := kept.queuePackets false response _ sends
      (fun _ => by
        rw [idle, Nat.zero_add]
        exact packets_lt response)
      (fun _ impossible => Bool.noConfusion impossible)
    exact ⟨after, ran, next, keeps after seen⟩
  · rw [if_neg cached]
    have untracked : ¬ Tracked
        { state with
          executing := state.executing.eraseIdx index
          nextSerial := state.nextSerial + 1 } response := by
      rintro ⟨birth, seen⟩
      obtain ⟨record, there, answered, _⟩ := exists_record_of_face seen
      have older := (sound.own _ record response there answered).2
      omega
    obtain ⟨after, ran, next, seen⟩ := ended.queuePackets false response _ sends
      (fun tracked => absurd tracked untracked) (fun tracked => absurd tracked untracked)
    exact ⟨after, ran, next, .of_face seen⟩

end Completions

end Sound

/-! ## The records of the whole system -/

section Mirror

/-- A request as it comes off the wire, and as its source has numbered it. -/
structure Request.Same (request : Request) (sent : Ctp.Request) : Prop where
  entity : request.entity = sent.entity
  jetty : request.originJettyNum = sent.jetty
  number : request.requestTassn = (UInt16.ofNat sent.sequence).toUInt32
  opcode : request.opcode = sent.opcode

structure Response.Same (response : Response) (kept : Ctp.Response) : Prop where
  request : response.request.Same kept.request
  opcode : response.opcode = kept.opcode
  payloadBytes : response.payloadBytes.toNat = kept.payloadBytes
  aborted : response.remoteAbort = kept.aborted

structure Record.Same (record : Record) (kept : Ctp.Record) : Prop where
  response : Option.Rel Response.Same record.response kept.response
  expires : record.expires = kept.expires
  queued : record.queued = kept.queued

/-- The same records, under keys as the wire carries them. -/
def State.Mirrors (state : State) (target : Target) : Prop :=
  ∀ entity jetty (number : UInt16),
    Option.Rel Record.Same (state.records (entity, jetty, number.toUInt32))
      (target.records (entity, jetty, number))

variable {config : Config} {state : State} {target : Target}

theorem isSome_of_rel {answer : Option Response} {kept : Option Ctp.Response}
    (alike : Option.Rel Response.Same answer kept) : answer.isSome = kept.isSome := by
  cases alike with
  | none => rfl
  | some _ => rfl

/-- The key, with the number as the wire carries it. -/
theorem Request.Same.key {request : Request} {sent : Ctp.Request} (same : request.Same sent) :
    request.key = (sent.key.1, sent.key.2.1, sent.key.2.2.toUInt32) := by
  rw [Request.key, same.entity, same.jetty, same.number]
  rfl

theorem Request.Same.key_eq {request other : Request} {sent kept : Ctp.Request}
    (same : request.Same sent) (alike : other.Same kept) (equal : request.key = other.key) :
    sent.key = kept.key := by
  rw [same.key, alike.key] at equal
  simpa only [Prod.ext_iff, UInt16.toUInt32_inj] using equal

theorem State.Mirrors.expire (mirrors : state.Mirrors target) :
    state.expireRecords.Mirrors (target.expireRecords state.now) := by
  intro entity jetty number
  have same := mirrors entity jetty number
  simp only [State.expireRecords, Target.expireRecords]
  revert same
  generalize state.records (entity, jetty, number.toUInt32) = record
  generalize target.records (entity, jetty, number) = kept
  intro same
  cases same with
  | none => exact .none
  | @some record kept alike =>
      simp only [Option.filter_some, isSome_of_rel alike.response, alike.queued, alike.expires]
      split
      · exact .some alike
      · exact .none

theorem State.Mirrors.set (mirrors : state.Mirrors target) {request : Request}
    {sent : Ctp.Request} (same : request.Same sent) {record : Record} {kept : Ctp.Record}
    (alike : record.Same kept) :
    (state.setRecord request.key record).Mirrors (target.setRecord sent.key kept) := by
  intro entity jetty number
  have keys : (entity, jetty, number.toUInt32) = request.key ↔
      (entity, jetty, number) = sent.key := by
    rw [same.key]
    simp only [Prod.ext_iff, UInt16.toUInt32_inj]
  simp only [State.setRecord, Target.setRecord]
  by_cases here : (entity, jetty, number) = sent.key
  · rw [keys.mpr here, here, Function.update_self, Function.update_self]
    exact .some alike
  · rw [Function.update_of_ne here, Function.update_of_ne (mt keys.mp here)]
    exact mirrors entity jetty number

/-- A request meets the same record in both. -/
theorem State.Mirrors.find (mirrors : state.Mirrors target) {request : Request}
    {sent : Ctp.Request} (same : request.Same sent) :
    Option.Rel Record.Same (state.records request.key) (target.records sent.key) := by
  rw [same.key]
  exact mirrors _ _ _

/-- A replay is counted in both. -/
theorem State.Mirrors.replay (mirrors : state.Mirrors target) {response : Response}
    {kept : Ctp.Response} (alike : response.Same kept) {record : Record} {held : Ctp.Record}
    (there : state.records response.request.key = some record)
    (found : target.records kept.request.key = some held) (same : record.Same held)
    (answered : record.response = some response) (answer : held.response = some kept)
    (idle : record.queued = 0) {after : State}
    (ran : state.replayResponseSegment config response [] = some after) :
    after.Mirrors (target.replayResponseSegment config kept) ∧
      after.executed = state.executed := by
  have sent {after : State} (ran : state.trackQueuedResponse true response = some after) :
      after.Mirrors (target.sendResponseSegment kept) ∧ after.executed = state.executed := by
    simp only [State.trackQueuedResponse, there, answered, ne_eq, not_true_eq_false,
      if_false] at ran
    obtain ⟨_, made⟩ := Option.ite_none_left_eq_some.mp ran
    obtain rfl := Option.some.inj made
    simp only [Target.sendResponseSegment, found, answer, if_true]
    have counted : (record.queued + 1) % 2 ^ 32 = held.queued + 1 := by
      rw [← same.queued, idle]
      rfl
    exact ⟨mirrors.set alike.request ⟨.some alike, same.expires, counted⟩, rfl⟩
  have acknowledged :
      response.acknowledges = true ↔ kept.opcode = .taack ∨ kept.aborted = true := by
    rw [Response.acknowledges, alike.opcode, alike.aborted, Bool.or_eq_true, beq_iff_eq]
  have one (fresh : State) : State.queuePackets config true response 1 [] fresh =
      fresh.trackQueuedResponse true response := Option.bind_fun_some _
  unfold State.replayResponseSegment at ran
  unfold Target.replayResponseSegment
  by_cases acknowledges : response.acknowledges = true
  · rw [if_pos acknowledges, State.sendResponseSegment, if_pos acknowledges, one] at ran
    rw [if_pos (acknowledged.mp acknowledges)]
    exact sent ran
  · rw [if_neg acknowledges, alike.opcode, alike.payloadBytes, one] at ran
    rw [if_neg (mt acknowledged.mpr acknowledges)]
    have small : response.payloadBytes = 0 ↔ kept.payloadBytes = 0 := by
      rw [← alike.payloadBytes, ← UInt32.toNat_inj]
      rfl
    simp only [small] at ran
    split at ran
    next silent =>
      obtain rfl := Option.some.inj ran
      rw [if_pos silent]
      exact ⟨mirrors, rfl⟩
    next speaks =>
      rw [if_neg speaks]
      exact sent ran

/-- Both embeddings of `DispatchInboundTransaction` execute the same requests, and leave the same
records. -/
theorem dispatch_mirrors (sound : Sound state) (mirrors : state.Mirrors target)
    {request : Request} {sent : Ctp.Request} (same : request.Same sent) {after : State}
    (dispatched : state.dispatchInboundTransaction config request [] = some after)
    {executes : Bool} {next : Target}
    (taken : target.dispatchInboundTransaction config state.now sent = (executes, next)) :
    after.Mirrors next ∧
      after.executed = state.executed ++ if executes then [request] else [] := by
  have expired := mirrors.expire
  have own : ∀ key record response, state.expireRecords.records key = some record →
      record.response = some response → response.request.key = key := by
    intro key record response there answered
    exact (sound.own key record response (State.expireRecords_eq_some.mp there).1 answered).1
  have time : state.expireRecords.now = state.now := rfl
  have executed : state.expireRecords.executed = state.executed := rfl
  unfold State.dispatchInboundTransaction at dispatched
  unfold Target.dispatchInboundTransaction at taken
  rw [← time] at taken expired
  rw [← executed]
  dsimp only at dispatched taken
  generalize state.expireRecords = state at dispatched taken expired own ⊢
  generalize target.expireRecords state.now = target at taken expired
  rw [← same.opcode] at taken
  by_cases reliable : request.opcode.reliable = true
  · rw [if_pos reliable] at dispatched taken
    have meets := expired.find same
    generalize found : state.records request.key = met at dispatched meets
    generalize there : target.records sent.key = held at taken meets
    cases meets with
    | none =>
        obtain rfl := Option.some.inj dispatched
        obtain ⟨rfl, rfl⟩ := Prod.mk.inj taken
        exact ⟨expired.set same ⟨.none, rfl, rfl⟩, rfl⟩
    | @some record held alike =>
        obtain ⟨answer, expires, queued, birth⟩ := record
        obtain ⟨other, later, count⟩ := held
        obtain ⟨answers, rfl, counts⟩ := alike
        obtain rfl : queued = count := counts
        dsimp only at dispatched taken answers
        cases answers with
        | none =>
            obtain rfl := Option.some.inj dispatched
            obtain ⟨rfl, rfl⟩ := Prod.mk.inj taken
            exact ⟨expired, (List.append_nil _).symm⟩
        | @some response other about =>
            have refreshed : State.Mirrors
                (state.setRecord request.key
                  ⟨some response, state.now + config.horizon, queued, birth⟩)
                ((target.setRecord sent.key
                  ⟨some other, state.now + config.horizon, queued⟩).touch sent.key state.now) :=
              expired.set same ⟨.some about, rfl, rfl⟩
            have key : response.request.key = request.key := own _ _ _ found rfl
            have keys : other.request.key = sent.key := about.request.key_eq same key
            dsimp only at dispatched taken
            by_cases waits : queued ≠ 0
            · rw [if_pos waits] at dispatched taken
              obtain rfl := Option.some.inj dispatched
              obtain ⟨rfl, rfl⟩ := Prod.mk.inj taken
              exact ⟨refreshed, (List.append_nil _).symm⟩
            · rw [if_neg waits] at dispatched taken
              obtain ⟨rfl, rfl⟩ := Prod.mk.inj taken
              have replayed := refreshed.replay about
                (by rw [key]; exact Function.update_self ..)
                (by rw [keys]; exact Function.update_self ..)
                ⟨.some about, rfl, rfl⟩ rfl rfl (not_not.mp waits) dispatched
              exact ⟨replayed.1, replayed.2.trans (List.append_nil _).symm⟩
  · rw [if_neg reliable] at dispatched taken
    obtain rfl := Option.some.inj dispatched
    obtain ⟨rfl, rfl⟩ := Prod.mk.inj taken
    exact ⟨expired, rfl⟩

end Mirror

/-! ## Runs -/

section Runs

open Queued.State

variable {config : Config} {state after : State} {event : Event}

theorem occurs_of_step (taken : step config state event = some after) : event.Occurs state := by
  cases event with
  | respond index opcode remoteAbort payloadBytes packets sends =>
      by_contra outside
      have missing : state.executing[index]? = none :=
        List.getElem?_eq_none (Nat.le_of_not_lt outside)
      simp [step, State.respond, missing] at taken
  | _ => exact trivial

/-- Every call returns. -/
theorem Sound.step (sound : Sound state) (config : Config) (occurs : event.Occurs state) :
    ∃ after, step config state event = some after ∧ Sound after ∧ Keeps state after := by
  cases event with
  | tick time =>
      exact ⟨_, rfl, ⟨sound.waiting, sound.alone, sound.own, sound.current, sound.counted,
        sound.few, sound.replayed, sound.uids, sound.once⟩, .of_face rfl⟩
  | arrive request sends => exact sound.dispatchInboundTransaction config request sends
  | respond index opcode remoteAbort payloadBytes packets sends =>
      exact sound.respond config opcode remoteAbort payloadBytes packets sends occurs
  | lost index => exact ⟨_, rfl, sound.finish index (Nat.le_refl _), .of_face rfl⟩
  | sent uid =>
      obtain ⟨next, seen, _⟩ := sound.requestActuallySent config uid
      exact ⟨_, rfl, next, .of_face seen⟩
  | discarded uid =>
      obtain ⟨after, ran, next, seen⟩ := sound.responseDiscardedBeforeSend uid
      exact ⟨after, ran, next, .of_face seen⟩
  | built => exact ⟨_, rfl, sound.build, .of_face rfl⟩
  | dropNext taAck readResponse => exact ⟨_, rfl, sound.flags taAck readResponse, .of_face rfl⟩

theorem sound_of_reaches (reached : Reaches (step config) always {} state) : Sound state :=
  reached.invariant .initial fun before event after sound taken _ => by
    obtain ⟨next, ran, last, _⟩ := sound.step config (occurs_of_step taken)
    rw [taken, Option.some.injEq] at ran
    exact ran ▸ last

/-- The packets in the queue that name a record and its response. -/
def naming (state : State) (key : Key) (record : Record) : Nat :=
  tableTotal (fun queued =>
    if queued.key = key ∧ record.response = some queued.response then 1 else 0)
    state.queuedResponses

/-- The packets that name a record name its response. -/
theorem Sound.entries_eq_naming (sound : Sound state) {key : Key} {record : Record}
    (there : state.records key = some record) :
    entries state.queuedResponses key = naming state key record := by
  unfold entries naming tableTotal
  refine congrArg List.sum (List.map_congr_left fun entry listed => ?_)
  obtain ⟨uid, queued⟩ := entry
  by_cases same : queued.key = key
  · obtain ⟨found, held, answered⟩ :=
      sound.current uid queued (AList.mem_lookup_iff.mpr listed)
    rw [same, there, Option.some.injEq] at held
    exact (if_pos same).trans (if_pos ⟨same, held ▸ answered⟩).symm
  · exact (if_neg same).trans (if_neg fun both => same both.1).symm

/-- In every state of every run: the request of a record was executed once since the record was
made; `queued` counts the packets that name the record and its response, at most one of them
queued by a duplicate; every packet in the queue is counted, so the decrements do not wrap; and
the next call returns, and takes away none but records that hold a response, are not counted on
and have expired. -/
theorem received_requests_accounted (config : Config) {state : State}
    (reached : Reaches (step config) always {} state) :
    (∀ key record, state.records key = some record →
      executions (state.executed.drop record.birth) key = 1 ∧
        record.queued = naming state key record ∧ record.queued < 2 ^ 32 ∧
          replays state.queuedResponses key ≤ 1) ∧
    (∀ uid queued, state.queuedResponses.lookup uid = some queued →
      ∃ record, state.records queued.key = some record ∧
        record.response = some queued.response ∧ 0 < record.queued) ∧
    ∀ event : Event, event.Occurs state →
      ∃ after, step config state event = some after ∧ Keeps state after := by
  have sound := sound_of_reaches reached
  refine ⟨fun key record there => ?_, fun uid queued held => ?_, fun event occurs => ?_⟩
  · have counted := sound.counted key record there
    exact ⟨(sound.once key record there).2, counted.trans (sound.entries_eq_naming there),
      counted ▸ sound.few key, sound.replayed key⟩
  · obtain ⟨record, there, answered⟩ := sound.current uid queued held
    exact ⟨record, there, answered, sound.queued_pos held there⟩
  · obtain ⟨after, ran, _, kept⟩ := sound.step config occurs
    exact ⟨after, ran, kept⟩

end Runs

section Replay

def client : EntityKey := ⟨0, 1, 2, 3⟩

def readRequest : Request := ⟨client, 5, 7, .read⟩

/-- A duplicate meets the second packet of the response in the queue and is not answered; the
next one comes when both are sent, and queues a replay. -/
def replayedRead : List Event :=
  [.arrive readRequest [], .respond 0 .readResponse false 64 2 [[0]], .arrive readRequest [],
    .sent 1, .arrive readRequest []]

def timing : Config := ⟨10, 1, 4096⟩

theorem received_requests_accounted_after_replay :
    ∃ state, Reaches (step timing) always {} state ∧
      ((state.records readRequest.key).map Record.queued,
        replays state.queuedResponses readRequest.key, state.queuedResponses.keys,
        state.executed.length) = (some 1, 1, [2], 1) ∧
      (∀ key record, state.records key = some record →
        executions (state.executed.drop record.birth) key = 1 ∧
          record.queued = naming state key record ∧ record.queued < 2 ^ 32 ∧
            replays state.queuedResponses key ≤ 1) ∧
      (∀ uid queued, state.queuedResponses.lookup uid = some queued →
        ∃ record, state.records queued.key = some record ∧
          record.response = some queued.response ∧ 0 < record.queued) ∧
      ∀ event : Event, event.Occurs state →
        ∃ after, step timing state event = some after ∧ State.Keeps state after := by
  obtain ⟨state, reached, seen⟩ := exists_of_execute
    (show (execute (step timing) always replayedRead {}).map (fun state =>
      ((state.records readRequest.key).map Record.queued,
        replays state.queuedResponses readRequest.key, state.queuedResponses.keys,
        state.executed.length)) = some (some 1, 1, [2], 1) by decide +kernel)
  exact ⟨state, reached, seen, received_requests_accounted timing reached⟩

end Replay

end Udma.Ctp.Queued
