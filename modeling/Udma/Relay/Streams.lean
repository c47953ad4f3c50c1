import Udma.Relay.Machine
import Udma.Transition.Trace

/-!
# What the relay makes of its streams

However the bytes of a socket arrive and whichever thread runs next: the frames that a thread
routes are those of its stream, a socket is sent whole packets only, and the frames of one
socket for another come out once each and in order.
-/

namespace Udma.Relay

open Udma.Arithmetic Udma.Collections Udma.Transition

/-! ## The format -/

theorem header_length (length : Nat) : (header length).length = 4 := by
  rw [header, List.length_reverse, toLittleEndian_length]

theorem frameLength_header {length : Nat} (valid : validLength length = true) :
    frameLength (header length) = length := by
  rw [frameLength, header, List.reverse_reverse, ofLittleEndian_toLittleEndian]
  have small : length ≤ maxFrame := of_decide_eq_true (Bool.and_eq_true_iff.mp valid).2
  exact Nat.mod_eq_of_lt (Nat.lt_of_le_of_lt small (by decide))

theorem header_frameLength {bytes : List UInt8} (four : bytes.length = 4) :
    header (frameLength bytes) = bytes := by
  rw [header, frameLength, ← four, ← List.length_reverse, toLittleEndian_ofLittleEndian,
    List.reverse_reverse]

/-- The packets of `EtherTapStub`. -/
def taps : LengthPrefix UInt8 where
  width := 4
  encode := header
  decode := frameLength
  valid := validLength
  width_pos := by decide
  length_encode := header_length
  decode_encode := fun _ => frameLength_header

abbrev packets (frames : List Frame) : List UInt8 := frames.flatMap taps.packet

theorem packets_append_single (frames : List Frame) (frame : Frame) :
    packets (frames ++ [frame]) = packets frames ++ taps.packet frame := by
  rw [packets, List.flatMap_append, List.flatMap_singleton]

theorem packet_of_header {header : List UInt8} {frame : Frame} (four : header.length = 4)
    (counted : frameLength header = frame.length) : header ++ frame = taps.packet frame := by
  rw [LengthPrefix.packet, ← counted]
  exact congrArg (· ++ frame) (header_frameLength four).symm

theorem drop_packet (frame : Frame) : (taps.packet frame).drop 4 = frame :=
  List.drop_left' (header_length _)

/-! ## What a step does -/

/-- Learning touches the table only. -/
theorem State.learn_eq (state : State) (port : Port) (frame : Frame) :
    state.learn port frame = { state with macTable := (state.learn port frame).macTable } := by
  unfold State.learn
  split <;> rfl

/-- A thread goes on with a packet, or it is done with it. -/
inductive Phase.Goes (packet : List UInt8) (destinations : List Port) : Phase → Prop where
  | ended : destinations = [] → Goes packet destinations .ended
  | next : destinations = [] → Goes packet destinations (.header [])
  | sending : destinations ≠ [] → Goes packet destinations (.sending packet destinations)

theorem State.send_eq (state : State) (port : Port) (packet : List UInt8)
    (destinations : List Port) :
    ∃ phase, phase.Goes packet destinations ∧
      state.send port packet destinations = state.setPhase port phase := by
  unfold State.send State.next
  split
  next none =>
    have none := List.isEmpty_iff.mp none
    split
    · exact ⟨.ended, .ended none, rfl⟩
    · exact ⟨.header [], .next none, rfl⟩
  next some =>
    exact ⟨.sending packet destinations,
      .sending fun none => some (List.isEmpty_iff.mpr none), rfl⟩

/-- The frames of one source. -/
def handledBy (log : List Handling) (source : Port) : List Frame :=
  (log.filter fun entry => entry.source = source).map Handling.frame

theorem handledBy_append_self (log : List Handling) (source : Port) (frame : Frame)
    (chosen : List Port) :
    handledBy (log ++ [⟨source, frame, chosen⟩]) source = handledBy log source ++ [frame] := by
  simp [handledBy]

theorem handledBy_append_other (log : List Handling) {source other : Port} (frame : Frame)
    (chosen : List Port) (different : other ≠ source) :
    handledBy (log ++ [⟨source, frame, chosen⟩]) other = handledBy log other := by
  simp [handledBy, different.symm]

/-- The frames of one source for one destination. -/
def routedTo (log : List Handling) (source destination : Port) : List Frame :=
  (log.filter fun entry => entry.source = source ∧ destination ∈ entry.destinations).map
    Handling.frame

/-- Everything that a step can be. -/
inductive Moved (count : Nat) (state : State) : State → Prop where
  | arrive (port : Port) (bytes : List UInt8) :
      Moved count state { state with
        incoming := Function.update state.incoming port (state.incoming port ++ bytes)
        received := Function.update state.received port (state.received port ++ bytes) }
  | shut (port : Port) :
      Moved count state { state with shut := Function.update state.shut port true }
  | header {port : Port} {data : List UInt8} {size : Nat} :
      state.phase port = .header data → size ≤ (state.incoming port).length →
      data.length + size < 4 →
      Moved count state ((state.take port size).setPhase port
        (.header (data ++ (state.incoming port).take size)))
  | headed {port : Port} {data : List UInt8} {size : Nat} :
      state.phase port = .header data → size ≤ (state.incoming port).length →
      data.length + size = 4 →
      validLength (frameLength (data ++ (state.incoming port).take size)) = true →
      Moved count state ((state.take port size).setPhase port
        (.body (data ++ (state.incoming port).take size)
          (frameLength (data ++ (state.incoming port).take size)) []))
  | refused {port : Port} {data : List UInt8} {size : Nat} :
      state.phase port = .header data → size ≤ (state.incoming port).length →
      Moved count state ((state.take port size).fail port)
  | body {port : Port} {header data : List UInt8} {length size : Nat} :
      state.phase port = .body header length data → size ≤ (state.incoming port).length →
      data.length + size < length →
      Moved count state ((state.take port size).setPhase port
        (.body header length (data ++ (state.incoming port).take size)))
  | framed {port : Port} {header data : List UInt8} {length size : Nat} :
      state.phase port = .body header length data → size ≤ (state.incoming port).length →
      data.length + size = length →
      Moved count state ((state.take port size).setPhase port
        (.routing header (data ++ (state.incoming port).take size)))
  | routed {port : Port} {header : List UInt8} {frame : Frame} {chosen : List Port}
      {next : State} :
      state.phase port = .routing header frame →
      chosen = State.destinations count (state.learn port frame).macTable port frame →
      next = { state.learn port frame with log := state.log ++ [⟨port, frame, chosen⟩] } →
      Moved count state (next.send port (header ++ frame) chosen)
  | locked {port destination : Port} {packet : List UInt8} {others : List Port} :
      state.phase port = .sending packet (destination :: others) →
      state.sendLock destination = none →
      Moved count state { state.setPhase port (.writing packet destination others 0) with
        sendLock := Function.update state.sendLock destination (some port) }
  | wrote {port destination : Port} {packet : List UInt8} {others : List Port}
      {written size : Nat} :
      state.phase port = .writing packet destination others written →
      state.shut destination = false → written + size ≤ packet.length →
      Moved count state { state.setPhase port
          (.writing packet destination others (written + size)) with
        outgoing := Function.update state.outgoing destination
          (state.outgoing destination ++ (packet.drop written).take size) }
  | unlocked {port destination : Port} {packet : List UInt8} {others : List Port} {next : State} :
      state.phase port = .writing packet destination others packet.length →
      next = { state with
        sendLock := Function.update state.sendLock destination none
        written := Function.update state.written destination
          (state.written destination ++ [(port, packet.drop 4)]) } →
      Moved count state (next.send port packet others)
  | failed {port : Port} :
      (∃ data, state.phase port = .header data) ∨
        (∃ header length data, state.phase port = .body header length data) →
      Moved count state (state.fail port)
  | tore {port destination : Port} {packet : List UInt8} {others : List Port} {written : Nat} :
      state.phase port = .writing packet destination others written →
      state.shut destination = true → written < packet.length →
      Moved count state { state.fail port with
        sendLock := Function.update state.sendLock destination none
        torn := Function.update state.torn destination true }

section Steps

variable {count : Nat} {state after : State} {port : Port} {size : Nat}

theorem receive_moved (taken : state.receive port size = some after) : Moved count state after := by
  unfold State.receive at taken
  dsimp only at taken
  split at taken
  · cases taken
  next room =>
    obtain ⟨some, enough⟩ := not_or.mp room
    have inside := Nat.le_of_not_lt enough
    split at taken
    next data phase =>
      split at taken
      · cases taken
      next few =>
        split at taken
        next short =>
          obtain rfl := Option.some.inj taken
          exact .header phase inside short
        next whole =>
          split at taken
          next valid =>
            obtain rfl := Option.some.inj taken
            exact .headed phase inside (by omega) valid
          next invalid =>
            obtain rfl := Option.some.inj taken
            exact .refused phase inside
    next header length data phase =>
      split at taken
      · cases taken
      next few =>
        split at taken
        next short =>
          obtain rfl := Option.some.inj taken
          exact .body phase inside short
        next whole =>
          obtain rfl := Option.some.inj taken
          exact .framed phase inside (by omega)
    · cases taken

theorem raise_moved (taken : state.raise port = some after) : Moved count state after := by
  unfold State.raise at taken
  split at taken
  next data phase =>
    split at taken
    · obtain rfl := Option.some.inj taken
      exact .failed (.inl ⟨data, phase⟩)
    · cases taken
  next header length data phase =>
    split at taken
    · obtain rfl := Option.some.inj taken
      exact .failed (.inr ⟨header, length, data, phase⟩)
    · cases taken
  next packet destination others written phase =>
    split at taken
    next torn =>
      obtain rfl := Option.some.inj taken
      exact .tore phase torn.1 torn.2
    · cases taken
  · cases taken

theorem step_moved {event : Event} (taken : step count state event = some after) :
    Moved count state after := by
  cases event with
  | arrive port bytes =>
      obtain rfl := Option.some.inj taken
      exact .arrive port bytes
  | receive port size =>
      simp only [step] at taken
      split at taken
      · exact receive_moved taken
      · cases taken
  | route port =>
      simp only [step, State.route] at taken
      split at taken
      next header frame phase =>
        obtain rfl := Option.some.inj taken
        exact .routed phase rfl rfl
      · cases taken
  | lock port =>
      simp only [step, State.lock] at taken
      split at taken
      next packet destination others phase =>
        split at taken
        next free =>
          obtain rfl := Option.some.inj taken
          exact .locked phase free
        · cases taken
      · cases taken
  | write port size =>
      simp only [step, State.write] at taken
      split at taken
      next packet destination others written phase =>
        split at taken
        · cases taken
        next open_ =>
          obtain rfl := Option.some.inj taken
          obtain ⟨live, _, inside⟩ := not_or.mp open_ |>.imp id not_or.mp
          exact .wrote phase (Bool.eq_false_iff.mpr live) (Nat.le_of_not_lt inside)
      · cases taken
  | unlock port =>
      simp only [step, State.unlock] at taken
      split at taken
      next packet destination others written phase =>
        split at taken
        next whole =>
          obtain rfl := Option.some.inj taken
          subst whole
          exact .unlocked phase rfl
        · cases taken
      · cases taken
  | raise port => exact raise_moved taken
  | shut port =>
      obtain rfl := Option.some.inj taken
      exact .shut port

end Steps

/-! ## The stream of a source -/

/-- The frames that a thread has routed, and what it has in hand, are its stream. -/
def Reads (frames : List Frame) (received incoming : List UInt8) : Phase → Prop
  | .header data => data.length < 4 ∧ received = packets frames ++ (data ++ incoming)
  | .body header length data =>
      header.length = 4 ∧ frameLength header = length ∧ validLength length = true ∧
        data.length < length ∧ received = packets frames ++ (header ++ data ++ incoming)
  | .routing header frame =>
      header.length = 4 ∧ frameLength header = frame.length ∧ taps.Valid frame ∧
        received = packets frames ++ (header ++ frame ++ incoming)
  | .sending packet _ | .writing packet .. =>
      received = packets frames ++ incoming ∧
        ∃ earlier frame, frames = earlier ++ [frame] ∧ packet = taps.packet frame
  | .ended => ∃ rest, received = packets frames ++ rest

structure Streams (state : State) : Prop where
  reads : ∀ port, Reads (handledBy state.log port) (state.received port) (state.incoming port)
    (state.phase port)
  valid : ∀ entry ∈ state.log, taps.Valid entry.frame

namespace Streams

variable {count : Nat} {state after : State}

theorem initial : Streams {} where
  reads := fun _ => ⟨by decide, rfl⟩
  valid := by simp

/-- Whatever a thread has in hand is behind the frames it has routed. -/
theorem exists_rest {frames : List Frame} {received incoming : List UInt8} {phase : Phase}
    (reads : Reads frames received incoming phase) :
    ∃ rest, received = packets frames ++ rest := by
  cases phase with
  | header data => exact ⟨_, reads.2⟩
  | body header length data => exact ⟨_, reads.2.2.2.2⟩
  | routing header frame => exact ⟨_, reads.2.2.2⟩
  | sending packet destinations => exact ⟨_, reads.1⟩
  | writing packet destination others written => exact ⟨_, reads.1⟩
  | ended => exact reads

/-- One thread changes, in its phase and in what is incoming. -/
theorem change (streams : Streams state) {port : Port} {phase : Phase} {incoming : List UInt8}
    {next : State} (phases : next.phase = Function.update state.phase port phase)
    (inputs : next.incoming = Function.update state.incoming port incoming)
    (arrived : next.received = state.received) (logged : next.log = state.log)
    (reads : Reads (handledBy state.log port) (state.received port) incoming phase) :
    Streams next where
  reads := by
    intro other
    rw [phases, inputs, arrived, logged]
    by_cases same : other = port
    · subst same
      rwa [Function.update_self, Function.update_self]
    · rw [Function.update_of_ne same, Function.update_of_ne same]
      exact streams.reads other
  valid := logged ▸ streams.valid

/-- One thread changes in its phase only. -/
theorem turn (streams : Streams state) {port : Port} {phase : Phase} {next : State}
    (phases : next.phase = Function.update state.phase port phase)
    (inputs : next.incoming = state.incoming) (arrived : next.received = state.received)
    (logged : next.log = state.log)
    (reads : Reads (handledBy state.log port) (state.received port) (state.incoming port) phase) :
    Streams next :=
  streams.change phases (inputs.trans (Function.update_eq_self ..).symm) arrived logged reads

theorem send (streams : Streams state) {port : Port} {packet : List UInt8}
    {destinations : List Port} {earlier : List Frame} {frame : Frame}
    (stream : state.received port = packets (handledBy state.log port) ++ state.incoming port)
    (last : handledBy state.log port = earlier ++ [frame]) (whole : packet = taps.packet frame) :
    Streams (state.send port packet destinations) := by
  unfold State.send State.next
  split
  · split
    · exact streams.turn rfl rfl rfl rfl ⟨_, stream⟩
    · exact streams.turn rfl rfl rfl rfl ⟨by decide, stream⟩
  · exact streams.turn rfl rfl rfl rfl ⟨stream, earlier, frame, last, whole⟩

/-- A frame is routed, and its thread goes on. -/
theorem enter (streams : Streams state) {port : Port} {frame : Frame} {chosen : List Port}
    {phase : Phase} {next : State} (phases : next.phase = Function.update state.phase port phase)
    (inputs : next.incoming = state.incoming) (arrived : next.received = state.received)
    (logged : next.log = state.log ++ [⟨port, frame, chosen⟩]) (valid : taps.Valid frame)
    (reads : Reads (handledBy state.log port ++ [frame]) (state.received port)
      (state.incoming port) phase) : Streams next where
  reads := by
    intro other
    rw [phases, inputs, arrived, logged]
    by_cases same : other = port
    · subst same
      rwa [Function.update_self, handledBy_append_self]
    · rw [Function.update_of_ne same, handledBy_append_other _ _ _ same]
      exact streams.reads other
  valid := by
    intro entry listed
    rw [logged] at listed
    rcases List.mem_append.mp listed with earlier | new
    · exact streams.valid entry earlier
    · obtain rfl := List.mem_singleton.mp new
      exact valid

theorem take_append_drop (incoming : List UInt8) (size : Nat) (data rest : List UInt8) :
    rest ++ (data ++ incoming.take size) ++ incoming.drop size = rest ++ data ++ incoming := by
  simp [List.append_assoc]

theorem move (streams : Streams state) (moved : Moved count state after) : Streams after := by
  cases moved with
  | arrive port bytes =>
      refine ⟨fun other => ?_, streams.valid⟩
      by_cases same : other = port
      · subst same
        have reads := streams.reads other
        simp only [Function.update_self]
        cases phase : state.phase other with
        | header data =>
            rw [phase] at reads
            exact ⟨reads.1, by rw [reads.2]; simp [List.append_assoc]⟩
        | body header length data =>
            rw [phase] at reads
            exact ⟨reads.1, reads.2.1, reads.2.2.1, reads.2.2.2.1, by
              rw [reads.2.2.2.2]; simp [List.append_assoc]⟩
        | routing header frame =>
            rw [phase] at reads
            exact ⟨reads.1, reads.2.1, reads.2.2.1, by
              rw [reads.2.2.2]; simp [List.append_assoc]⟩
        | sending packet destinations =>
            rw [phase] at reads
            exact ⟨by rw [reads.1, List.append_assoc], reads.2⟩
        | writing packet destination others written =>
            rw [phase] at reads
            exact ⟨by rw [reads.1, List.append_assoc], reads.2⟩
        | ended =>
            rw [phase] at reads
            obtain ⟨rest, shape⟩ := reads
            exact ⟨rest ++ bytes, by rw [shape, List.append_assoc]⟩
      · simp only [Function.update_of_ne same]
        exact streams.reads other
  | shut port => exact ⟨streams.reads, streams.valid⟩
  | @header port data size phase inside short =>
      have reads := streams.reads port
      rw [phase] at reads
      refine streams.change rfl rfl rfl rfl ⟨?_, ?_⟩
      · rw [List.length_append, List.length_take, Nat.min_eq_left inside]
        exact short
      · rw [reads.2, List.append_assoc data, List.take_append_drop]
  | @headed port data size phase inside whole valid =>
      have reads := streams.reads port
      rw [phase] at reads
      refine streams.change rfl rfl rfl rfl ⟨?_, rfl, valid, ?_, ?_⟩
      · rw [List.length_append, List.length_take, Nat.min_eq_left inside, whole]
      · have positive : 14 ≤ frameLength (data ++ (state.incoming port).take size) :=
          of_decide_eq_true (Bool.and_eq_true_iff.mp valid).1
        exact Nat.lt_of_lt_of_le (by decide) positive
      · rw [reads.2, List.append_nil, List.append_assoc data, List.take_append_drop]
  | @refused port data size phase inside =>
      have reads := streams.reads port
      rw [phase] at reads
      exact streams.change rfl rfl rfl rfl ⟨_, reads.2⟩
  | @body port header data length size phase inside short =>
      have reads := streams.reads port
      rw [phase] at reads
      obtain ⟨four, counted, valid, _, shape⟩ := reads
      refine streams.change rfl rfl rfl rfl ⟨four, counted, valid, ?_, ?_⟩
      · rw [List.length_append, List.length_take, Nat.min_eq_left inside]
        exact short
      · rw [shape, take_append_drop]
  | @framed port header data length size phase inside whole =>
      have reads := streams.reads port
      rw [phase] at reads
      obtain ⟨four, counted, valid, _, shape⟩ := reads
      have size : (data ++ (state.incoming port).take size).length = length := by
        rw [List.length_append, List.length_take, Nat.min_eq_left inside, whole]
      refine streams.change rfl rfl rfl rfl ⟨four, counted.trans size.symm, ?_, ?_⟩
      · exact (congrArg validLength size).trans valid
      · rw [shape, take_append_drop]
  | @routed port header frame chosen next phase choose shape =>
      have reads := streams.reads port
      rw [phase] at reads
      obtain ⟨four, counted, valid, stream⟩ := reads
      have learned := state.learn_eq port frame
      have phases : next.phase = state.phase := by rw [shape, learned]
      have inputs : next.incoming = state.incoming := by rw [shape, learned]
      have arrived : next.received = state.received := by rw [shape, learned]
      have logged : next.log = state.log ++ [⟨port, frame, chosen⟩] := by rw [shape]
      have passed : state.received port =
          packets (handledBy state.log port ++ [frame]) ++ state.incoming port := by
        rw [packets_append_single, ← packet_of_header four counted, stream]
        exact (List.append_assoc _ _ _).symm
      unfold State.send State.next
      split
      · split
        · exact streams.enter (congrArg (Function.update · port _) phases) inputs arrived logged
            valid ⟨_, passed⟩
        · exact streams.enter (congrArg (Function.update · port _) phases) inputs arrived logged
            valid ⟨by decide, passed⟩
      · exact streams.enter (congrArg (Function.update · port _) phases) inputs arrived logged
          valid ⟨passed, _, frame, rfl, packet_of_header four counted⟩
  | @locked port destination packet others phase free =>
      have reads := streams.reads port
      rw [phase] at reads
      exact streams.turn rfl rfl rfl rfl reads
  | @wrote port destination packet others written size phase live inside =>
      have reads := streams.reads port
      rw [phase] at reads
      exact streams.turn rfl rfl rfl rfl reads
  | @unlocked port destination packet others next phase shape =>
      have reads := streams.reads port
      rw [phase] at reads
      obtain ⟨stream, earlier, frame, last, whole⟩ := reads
      subst shape
      have kept : Streams { state with
          sendLock := Function.update state.sendLock destination none
          written := Function.update state.written destination
            (state.written destination ++ [(port, packet.drop 4)]) } :=
        ⟨streams.reads, streams.valid⟩
      exact kept.send stream last whole
  | @failed port phase =>
      exact streams.turn rfl rfl rfl rfl (exists_rest (streams.reads port))
  | @tore port destination packet others written phase gone short =>
      exact streams.turn rfl rfl rfl rfl (exists_rest (streams.reads port))

end Streams

theorem streams_of_reaches {count : Nat} {state : State}
    (reached : Reaches (step count) always {} state) : Streams state :=
  reached.invariant .initial fun _ _ _ streams taken _ => streams.move (step_moved taken)

/-! ## Learning -/

/-- The last socket on which a station was a source. -/
def learned (log : List Handling) (mac : List UInt8) : Option Port :=
  (log.reverse.find? fun entry =>
    !group (sourceMac entry.frame) && decide (sourceMac entry.frame = mac)).map Handling.source

theorem learned_append (log : List Handling) (entry : Handling) :
    learned (log ++ [entry]) = if group (sourceMac entry.frame) then learned log
      else Function.update (learned log) (sourceMac entry.frame) (some entry.source) := by
  funext mac
  unfold learned
  rw [List.reverse_append, List.reverse_singleton, List.singleton_append, List.find?_cons]
  cases individual : group (sourceMac entry.frame) with
  | true => rfl
  | false =>
      by_cases same : sourceMac entry.frame = mac
      · subst same
        simp
      · simp [same, Function.update_of_ne (Ne.symm same)]

/-- A frame goes where the frames before it, and itself, say. -/
def Routed (count : Nat) (earlier : List Handling) (entry : Handling) : Prop :=
  entry.destinations =
    State.destinations count (learned (earlier ++ [entry])) entry.source entry.frame

structure Routes (count : Nat) (state : State) : Prop where
  table : state.macTable = learned state.log
  routed : Throughout (Routed count) state.log

namespace Routes

variable {count : Nat} {state after : State}

theorem of_eq (routes : Routes count state) (table : after.macTable = state.macTable)
    (log : after.log = state.log) : Routes count after :=
  ⟨by rw [table, log, routes.table], log ▸ routes.routed⟩

theorem send (routes : Routes count state) {port : Port} {packet : List UInt8}
    {destinations : List Port} : Routes count (state.send port packet destinations) := by
  unfold State.send State.next
  split
  · split <;> exact routes.of_eq rfl rfl
  · exact routes.of_eq rfl rfl

theorem move (routes : Routes count state) (moved : Moved count state after) :
    Routes count after := by
  cases moved with
  | @routed port header frame chosen next phase choose shape =>
      subst shape
      have table : (state.learn port frame).macTable =
          learned (state.log ++ [⟨port, frame, chosen⟩]) := by
        rw [learned_append, ← routes.table]
        unfold State.learn
        cases group (sourceMac frame) <;> rfl
      refine Routes.send ⟨table, routes.routed.append_single ?_⟩
      rw [Routed, ← table]
      exact choose
  | @unlocked port destination packet others next phase shape =>
      have released : Routes count next := routes.of_eq (by rw [shape]) (by rw [shape])
      exact released.send
  | _ => exact routes.of_eq rfl rfl

end Routes

theorem routes_of_reaches {count : Nat} {state : State}
    (reached : Reaches (step count) always {} state) : Routes count state :=
  reached.invariant ⟨rfl, .nil⟩ fun _ _ _ routes taken _ => routes.move (step_moved taken)

end Udma.Relay
