import Udma.Relay.Outputs

/-!
# What the relay delivers

Each frame of a source reaches a destination once, in the order of the source, and nothing is
left over when no thread can move.
-/

namespace Udma.Relay

open Udma.Collections Udma.Transition

/-! ## Once and in order -/

/-- The destinations that a thread has still to write to. -/
def Phase.pending : Phase → List Port
  | .sending _ destinations => destinations
  | .writing _ destination others _ => destination :: others
  | _ => []

/-- The frame in hand. -/
def Phase.carried : Phase → Frame
  | .sending packet _ | .writing packet .. => packet.drop 4
  | _ => []

/-- What a thread still owes to a destination. -/
def Phase.owes (phase : Phase) (destination : Port) : List Frame :=
  if destination ∈ phase.pending then [phase.carried] else []

theorem Phase.owes_of_pending {phase : Phase} (idle : phase.pending = []) (destination : Port) :
    phase.owes destination = [] := by
  rw [Phase.owes, idle]
  exact if_neg List.not_mem_nil

theorem Phase.Goes.owes {packet : List UInt8} {destinations : List Port} {phase : Phase}
    (goes : phase.Goes packet destinations) (alive : phase ≠ .ended) (destination : Port) :
    phase.owes destination = if destination ∈ destinations then [packet.drop 4] else [] := by
  cases goes with
  | ended => exact absurd rfl alive
  | next none => rw [none]; rfl
  | sending => rfl

theorem Phase.Goes.pending {packet : List UInt8} {destinations : List Port} {phase : Phase}
    (goes : phase.Goes packet destinations) : phase.pending = destinations := by
  cases goes with
  | ended none => exact none.symm
  | next none => exact none.symm
  | sending => rfl

/-- The frames of one source in a row. -/
def sentBy (row : List (Port × Frame)) (port : Port) : List Frame :=
  (row.filter fun entry => entry.1 = port).map Prod.snd

theorem sentBy_append_self (row : List (Port × Frame)) (port : Port) (frame : Frame) :
    sentBy (row ++ [(port, frame)]) port = sentBy row port ++ [frame] := by
  simp [sentBy]

theorem sentBy_append_other (row : List (Port × Frame)) {port other : Port} (frame : Frame)
    (different : other ≠ port) : sentBy (row ++ [(port, frame)]) other = sentBy row other := by
  simp [sentBy, different.symm]

theorem routedTo_append_self (log : List Handling) (source destination : Port) (frame : Frame)
    (chosen : List Port) :
    routedTo (log ++ [⟨source, frame, chosen⟩]) source destination =
      routedTo log source destination ++ if destination ∈ chosen then [frame] else [] := by
  by_cases listed : destination ∈ chosen <;> simp [routedTo, listed]

theorem routedTo_append_other (log : List Handling) {source other : Port} (destination : Port)
    (frame : Frame) (chosen : List Port) (different : other ≠ source) :
    routedTo (log ++ [⟨source, frame, chosen⟩]) other destination =
      routedTo log other destination := by
  simp [routedTo, different.symm]

theorem destinations_nodup (count : Nat) (macTable : List UInt8 → Option Port) (source : Port)
    (frame : Frame) : (State.destinations count macTable source frame).Nodup := by
  unfold State.destinations
  have flood : ((List.range count).filter (· ≠ source)).Nodup := List.nodup_range.filter _
  split
  · exact flood
  · split
    · exact flood
    · split
      · exact List.nodup_nil
      · exact List.nodup_singleton _

structure Delivered (state : State) : Prop where
  account : ∀ port destination, ∃ owed,
    sentBy (state.written destination) port ++ owed = routedTo state.log port destination ∧
      (state.phase port ≠ .ended → owed = (state.phase port).owes destination)
  nodup : ∀ port, (state.phase port).pending.Nodup
  some : ∀ port packet, state.phase port ≠ .sending packet []

namespace Delivered

variable {count : Nat} {state after : State}

theorem initial : Delivered {} where
  account := fun _ _ => ⟨[], rfl, fun _ => rfl⟩
  nodup := fun _ => List.nodup_nil
  some := nofun

/-- One thread moves, and owes what it owed or has ended. -/
theorem turn (delivered : Delivered state) {port : Port} {phase : Phase}
    (phases : after.phase = Function.update state.phase port phase)
    (rows : after.written = state.written) (logged : after.log = state.log)
    (kept : phase = .ended ∨ state.phase port ≠ .ended ∧
      phase.pending = (state.phase port).pending ∧
        ∀ destination, phase.owes destination = (state.phase port).owes destination)
    (some : ∀ packet, phase ≠ .sending packet []) : Delivered after where
  account := by
    intro other destination
    obtain ⟨owed, sum, owes⟩ := delivered.account other destination
    refine ⟨owed, by rw [rows, logged, sum], ?_⟩
    rw [phases]
    by_cases own : other = port
    · subst own
      rw [Function.update_self]
      intro alive
      obtain ⟨was, _, same⟩ := kept.resolve_left alive
      rw [same, owes was]
    · rw [Function.update_of_ne own]
      exact owes
  nodup := by
    intro other
    rw [phases]
    by_cases own : other = port
    · subst own
      rw [Function.update_self]
      rcases kept with rfl | ⟨_, same, _⟩
      · exact List.nodup_nil
      · rw [same]
        exact delivered.nodup other
    · rw [Function.update_of_ne own]
      exact delivered.nodup other
  some := by
    intro other packet
    rw [phases]
    by_cases own : other = port
    · subst own
      rw [Function.update_self]
      exact some packet
    · rw [Function.update_of_ne own]
      exact delivered.some other packet

/-- A thread that receives owes nothing. -/
theorem idle (delivered : Delivered state) {port : Port} {phase : Phase}
    (phases : after.phase = Function.update state.phase port phase)
    (rows : after.written = state.written) (logged : after.log = state.log)
    (alive : state.phase port ≠ .ended) (was : (state.phase port).pending = [])
    (is : phase.pending = []) (some : ∀ packet, phase ≠ .sending packet []) :
    Delivered after := by
  refine delivered.turn phases rows logged (.inr ⟨alive, is.trans was.symm, ?_⟩) some
  intro destination
  rw [Phase.owes_of_pending is, Phase.owes_of_pending was]

theorem some_of_goes {packet : List UInt8} {destinations : List Port} {phase : Phase}
    (goes : phase.Goes packet destinations) (other : List UInt8) : phase ≠ .sending other [] := by
  rintro rfl
  cases goes with
  | sending some => exact some rfl

/-- A frame is routed. -/
theorem enter (delivered : Delivered state) {port : Port} {header : List UInt8} {frame : Frame}
    {chosen : List Port} {going : Phase} (routing : state.phase port = .routing header frame)
    (phases : after.phase = Function.update state.phase port going)
    (rows : after.written = state.written)
    (logged : after.log = state.log ++ [⟨port, frame, chosen⟩])
    (four : header.length = 4) (nodup : chosen.Nodup) (goes : going.Goes (header ++ frame) chosen) :
    Delivered after where
  account := by
    intro other destination
    obtain ⟨owed, sum, owes⟩ := delivered.account other destination
    rw [phases, rows, logged]
    by_cases own : other = port
    · subst own
      rw [routing] at owes
      have none : owed = [] := owes nofun
      subst none
      refine ⟨if destination ∈ chosen then [frame] else [], ?_, ?_⟩
      · rw [routedTo_append_self, ← sum, List.append_nil]
      · rw [Function.update_self]
        intro alive
        rw [goes.owes alive, List.drop_left' four]
    · rw [routedTo_append_other _ _ _ _ own, Function.update_of_ne own]
      exact ⟨owed, sum, owes⟩
  nodup := by
    intro other
    rw [phases]
    by_cases own : other = port
    · subst own
      rw [Function.update_self, goes.pending]
      exact nodup
    · rw [Function.update_of_ne own]
      exact delivered.nodup other
  some := by
    intro other packet
    rw [phases]
    by_cases own : other = port
    · subst own
      rw [Function.update_self]
      exact some_of_goes goes packet
    · rw [Function.update_of_ne own]
      exact delivered.some other packet

/-- A packet is out. -/
theorem pay (delivered : Delivered state) {port destination : Port} {packet : List UInt8}
    {others : List Port} {written : Nat} {going : Phase}
    (writing : state.phase port = .writing packet destination others written)
    (phases : after.phase = Function.update state.phase port going)
    (rows : after.written = Function.update state.written destination
      (state.written destination ++ [(port, packet.drop 4)]))
    (logged : after.log = state.log) (goes : going.Goes packet others) : Delivered after where
  account := by
    intro other place
    obtain ⟨owed, sum, owes⟩ := delivered.account other place
    rw [phases, rows, logged]
    by_cases own : other = port
    · subst own
      have apart : destination ∉ others := by
        have nodup := delivered.nodup other
        rw [writing] at nodup
        exact (List.nodup_cons.mp nodup).1
      rw [writing] at owes
      have debt : owed = if place ∈ destination :: others then [packet.drop 4] else [] :=
        owes nofun
      rw [Function.update_self]
      by_cases same : place = destination
      · subst same
        rw [if_pos List.mem_cons_self] at debt
        refine ⟨[], ?_, ?_⟩
        · rw [Function.update_self, sentBy_append_self, List.append_nil, ← sum, debt]
        · intro alive
          rw [goes.owes alive, if_neg apart]
      · rw [Function.update_of_ne same]
        refine ⟨owed, sum, ?_⟩
        intro alive
        rw [goes.owes alive, debt]
        simp [same]
    · rw [Function.update_of_ne own]
      refine ⟨owed, ?_, owes⟩
      by_cases same : place = destination
      · subst same
        rw [Function.update_self, sentBy_append_other _ _ own, sum]
      · rw [Function.update_of_ne same, sum]
  nodup := by
    intro other
    rw [phases]
    by_cases own : other = port
    · subst own
      have nodup := delivered.nodup other
      rw [writing] at nodup
      rw [Function.update_self, goes.pending]
      exact (List.nodup_cons.mp nodup).2
    · rw [Function.update_of_ne own]
      exact delivered.nodup other
  some := by
    intro other packet
    rw [phases]
    by_cases own : other = port
    · subst own
      rw [Function.update_self]
      exact some_of_goes goes packet
    · rw [Function.update_of_ne own]
      exact delivered.some other packet

theorem move (delivered : Delivered state) (streams : Streams state)
    (moved : Moved count state after) : Delivered after := by
  cases moved with
  | arrive port bytes => exact ⟨delivered.account, delivered.nodup, delivered.some⟩
  | shut port => exact ⟨delivered.account, delivered.nodup, delivered.some⟩
  | @header port data size phase inside short =>
      exact delivered.idle rfl rfl rfl (by rw [phase]; nofun) (by rw [phase]; rfl) rfl nofun
  | @headed port data size phase inside whole valid =>
      exact delivered.idle rfl rfl rfl (by rw [phase]; nofun) (by rw [phase]; rfl) rfl nofun
  | @refused port data size phase inside => exact delivered.turn rfl rfl rfl (.inl rfl) nofun
  | @body port header data length size phase inside short =>
      exact delivered.idle rfl rfl rfl (by rw [phase]; nofun) (by rw [phase]; rfl) rfl nofun
  | @framed port header data length size phase inside whole =>
      exact delivered.idle rfl rfl rfl (by rw [phase]; nofun) (by rw [phase]; rfl) rfl nofun
  | @routed port header frame chosen next phase choose shape =>
      obtain ⟨going, goes, sent⟩ := next.send_eq port (header ++ frame) chosen
      have reads := streams.reads port
      rw [phase] at reads
      rw [state.learn_eq port frame] at shape
      rw [sent, shape]
      exact delivered.enter phase rfl rfl rfl reads.1 (choose ▸ destinations_nodup ..) goes
  | @locked port destination packet others phase free =>
      refine delivered.turn rfl rfl rfl (.inr ⟨by rw [phase]; nofun, ?_, ?_⟩) nofun
      · rw [phase]
        rfl
      · rw [phase]
        exact fun _ => rfl
  | @wrote port destination packet others written size phase live inside =>
      refine delivered.turn rfl rfl rfl (.inr ⟨by rw [phase]; nofun, ?_, ?_⟩) nofun
      · rw [phase]
        rfl
      · rw [phase]
        exact fun _ => rfl
  | @unlocked port destination packet others next phase shape =>
      obtain ⟨going, goes, sent⟩ := next.send_eq port packet others
      rw [sent, shape]
      exact delivered.pay phase rfl rfl rfl goes
  | failed => exact delivered.turn rfl rfl rfl (.inl rfl) nofun
  | tore => exact delivered.turn rfl rfl rfl (.inl rfl) nofun

end Delivered

theorem delivered_of_reaches {count : Nat} {state : State}
    (reached : Reaches (step count) always {} state) : Delivered state :=
  reached.induction_on Delivered .initial fun _ _ _ earlier delivered taken _ =>
    delivered.move (streams_of_reaches earlier) (step_moved taken)

/-! ## A relay of three sockets -/

/-- A station on the socket 0 sends to all. -/
def broadcastFrame : Frame :=
  [0xff, 0xff, 0xff, 0xff, 0xff, 0xff, 2, 0, 0, 0, 0, 1, 8, 6]

/-- A station on the socket 2 answers it. -/
def answerFrame : Frame := [2, 0, 0, 0, 0, 1, 2, 0, 0, 0, 0, 3, 8, 6]

/-- The packets arrive in pieces. -/
def relayEvents : List Event :=
  [.arrive 0 [0, 0, 0], .receive 0 2, .arrive 2 (taps.packet answerFrame), .receive 0 1,
    .arrive 0 (14 :: broadcastFrame), .receive 0 1, .receive 0 9, .receive 0 5, .route 0, .lock 0,
    .write 0 7, .receive 2 4, .receive 2 14, .route 2, .lock 2, .write 2 18, .write 0 11,
    .unlock 0, .lock 0]

/-- The rest of both packets. -/
def relayRest : List Event := [.unlock 2, .write 0 18, .unlock 0]

/-! ## What comes of a run -/

variable {count : Nat} {state : State}

theorem parse_short {stream : List UInt8} (short : stream.length < 4) : taps.parse stream = [] := by
  cases stream with
  | nil => rfl
  | cons first rest => exact if_pos (.inl short)

/-- A header and less than its frame are less than a packet. -/
theorem part_of_body {header data : List UInt8} {length : Nat} (four : header.length = 4)
    (counted : frameLength header = length) (valid : validLength length = true)
    (short : data.length < length) : Part (header ++ data) := by
  have size : (data ++ List.replicate (length - data.length) 0).length = length := by
    rw [List.length_append, List.length_replicate]
    omega
  refine ⟨data ++ List.replicate (length - data.length) 0, header.length + data.length,
    ?_, ?_, ?_⟩
  · exact (congrArg validLength size).trans valid
  · rw [LengthPrefix.length_packet, size, four]
    exact Nat.add_lt_add_left short 4
  · rw [← packet_of_header four (counted.trans size.symm), ← List.append_assoc,
      ← List.length_append, List.take_left]

/-- A thread inside `recv_exact`. -/
def Phase.Receiving : Phase → Prop
  | .header _ | .body .. => True
  | _ => False

theorem valid_of_handledBy (streams : Streams state) {port : Port} :
    ∀ frame ∈ handledBy state.log port, taps.Valid frame := by
  intro frame listed
  obtain ⟨entry, inside, rfl⟩ := List.mem_map.mp listed
  exact streams.valid entry (List.mem_filter.mp inside).1

/-- A thread that waits for bytes with its stream used up has routed all its packets. -/
theorem handledBy_of_used (reached : Reaches (step count) always {} state) {port : Port}
    (receiving : (state.phase port).Receiving) (used : state.incoming port = []) :
    handledBy state.log port = taps.parse (state.received port) := by
  have streams := streams_of_reaches reached
  have reads := streams.reads port
  rw [used] at reads
  cases phase : state.phase port with
  | header data =>
      rw [phase] at reads
      rw [reads.2, List.append_nil,
        LengthPrefix.parse_packets_append (valid_of_handledBy streams), parse_short reads.1,
        List.append_nil]
  | body header length data =>
      rw [phase] at reads
      obtain ⟨four, counted, valid, short, stream⟩ := reads
      rw [stream, List.append_nil,
        LengthPrefix.parse_packets_append (valid_of_handledBy streams),
        (part_of_body four counted valid short).parse, List.append_nil]
  | _ => rw [phase] at receiving; exact receiving.elim

/-- However the stream of a socket is cut into pieces, its thread routes the packets of the
stream, and with the stream used up it has routed them all. -/
theorem relay_input_framed (reached : Reaches (step count) always {} state) (port : Port) :
    handledBy state.log port <+: taps.parse (state.received port) ∧
      ((state.phase port).Receiving → state.incoming port = [] →
        handledBy state.log port = taps.parse (state.received port)) := by
  refine ⟨?_, handledBy_of_used reached⟩
  have streams := streams_of_reaches reached
  obtain ⟨rest, stream⟩ := Streams.exists_rest (streams.reads port)
  rw [stream, LengthPrefix.parse_packets_append (valid_of_handledBy streams)]
  exact List.prefix_append _ _

theorem relay_input_framed_pieces :
    ∃ state, Reaches (step 3) always {} state ∧
      handledBy state.log 0 = taps.parse (state.received 0) ∧
        handledBy state.log 0 = [broadcastFrame] := by
  obtain ⟨state, reached, seen⟩ := exists_of_execute
    (show (execute (step 3) always (relayEvents ++ relayRest) {}).map (fun state =>
      (state.phase 0, state.incoming 0, handledBy state.log 0)) =
        some (.header [], [], [broadcastFrame]) by decide +kernel)
  obtain ⟨phase, used, frames⟩ := by simpa only [Prod.mk.injEq] using seen
  exact ⟨state, reached, (relay_input_framed reached 0).2 (phase ▸ trivial) used, frames⟩

/-- Whatever the threads do at once and wherever one of them fails, a socket has been sent whole
packets and less than one packet more, and the packets of one source are the first ones of those
routed from it, each once and in order. -/
theorem relay_output_framed (reached : Reaches (step count) always {} state)
    (destination : Port) :
    ∃ row tail, state.outgoing destination = packets (row.map Prod.snd) ++ tail ∧ Part tail ∧
      taps.parse (state.outgoing destination) = row.map Prod.snd ∧
        ∀ port, sentBy row port <+: routedTo state.log port destination := by
  have outputs := outputs_of_reaches reached
  have delivered := delivered_of_reaches reached
  obtain ⟨tail, shape⟩ := outputs.tails destination
  have parsed {row : List (Port × Frame)} {tail : List UInt8}
      (valid : ∀ entry ∈ row, taps.Valid entry.2) (part : Part tail) :
      taps.parse (packets (row.map Prod.snd) ++ tail) = row.map Prod.snd := by
    rw [LengthPrefix.parse_packets_append, part.parse, List.append_nil]
    intro frame listed
    obtain ⟨entry, inside, rfl⟩ := List.mem_map.mp listed
    exact valid entry inside
  have ordered (port : Port) :
      sentBy (state.written destination) port <+: routedTo state.log port destination := by
    obtain ⟨owed, sum, _⟩ := delivered.account port destination
    exact ⟨owed, sum⟩
  have behind (part : Part tail) : ∃ row tail,
      state.outgoing destination = packets (row.map Prod.snd) ++ tail ∧ Part tail ∧
        taps.parse (state.outgoing destination) = row.map Prod.snd ∧
          ∀ port, sentBy row port <+: routedTo state.log port destination :=
    ⟨_, tail, shape.sent, part, by rw [shape.sent, parsed (outputs.valid destination) part],
      ordered⟩
  cases torn : state.torn destination with
  | true => exact behind (shape.torn torn).2
  | false =>
      cases held : state.sendLock destination with
      | none => exact behind (shape.free torn held ▸ part_nil)
      | some holder =>
          have locks := locks_of_reaches reached
          obtain ⟨packet, others, written, writes⟩ := locks.held destination holder held
          obtain ⟨frame, valid, rfl⟩ :=
            Outputs.packet_of_reads (streams_of_reaches reached) writes
          have cut := shape.writing torn _ _ _ _ writes
          rcases Nat.lt_or_eq_of_le (locks.holds _ _ _ _ _ writes).2 with short | whole
          · exact behind ⟨frame, written, valid, short, cut⟩
          -- The packet is out, and the lock is not released yet.
          · rw [whole, List.take_length] at cut
            have sent : state.outgoing destination =
                packets ((state.written destination ++ [(holder, frame)]).map Prod.snd) ++ [] := by
              rw [shape.sent, cut, List.map_append, List.map_singleton, packets_append_single,
                List.append_nil]
            refine ⟨_, [], sent, part_nil, ?_, ?_⟩
            · rw [sent, parsed ?_ part_nil]
              intro entry listed
              rcases List.mem_append.mp listed with earlier | new
              · exact outputs.valid destination entry earlier
              · obtain rfl := List.mem_singleton.mp new
                exact valid
            · intro port
              by_cases own : port = holder
              · subst own
                obtain ⟨owed, sum, owes⟩ := delivered.account port destination
                rw [writes] at owes
                have debt : owed = [frame] := by
                  rw [owes nofun]
                  exact (if_pos List.mem_cons_self).trans
                    (congrArg (fun frame => [frame]) (drop_packet frame))
                rw [sentBy_append_self, ← debt, sum]
              · rw [sentBy_append_other _ _ own]
                exact ordered port

theorem relay_output_framed_answer :
    ∃ state row tail, Reaches (step 3) always {} state ∧
      state.outgoing 0 = packets (row.map Prod.snd) ++ tail ∧ Part tail ∧
        taps.parse (state.outgoing 0) = row.map Prod.snd ∧
          sentBy row 2 <+: [answerFrame] := by
  obtain ⟨state, reached, seen⟩ := exists_of_execute
    (show (execute (step 3) always relayEvents {}).map (fun state => routedTo state.log 2 0) =
      some [answerFrame] by decide +kernel)
  obtain ⟨row, tail, sent, part, parsed, ordered⟩ := relay_output_framed reached 0
  exact ⟨state, row, tail, reached, sent, part, parsed, seen ▸ ordered 2⟩

/-- A frame goes to every socket but its own if it is for a group or for a station that has sent
nothing yet, and otherwise to the socket from which that station has sent last. -/
theorem relay_switches (reached : Reaches (step count) always {} state) {earlier : List Handling}
    {entry : Handling} {later : List Handling} (shape : state.log = earlier ++ entry :: later)
    (destination : Port) :
    destination ∈ entry.destinations ↔ destination ≠ entry.source ∧
      if group (destinationMac entry.frame) = true ∨
          learned (earlier ++ [entry]) (destinationMac entry.frame) = none then destination < count
      else learned (earlier ++ [entry]) (destinationMac entry.frame) = some destination := by
  have routed := (routes_of_reaches reached).routed earlier entry later shape
  rw [routed, State.destinations]
  cases known : learned (earlier ++ [entry]) (destinationMac entry.frame) with
  | none => simp [and_comm]
  | some place =>
      cases shared : group (destinationMac entry.frame) with
      | true => simp [and_comm]
      | false =>
          by_cases own : place = entry.source
          · simp only [own, if_true, Bool.false_eq_true, if_false, List.not_mem_nil, false_or,
              reduceCtorEq, Option.some.injEq, false_iff, not_and]
            exact fun different same => different same.symm
          · simp only [own, Bool.false_eq_true, if_false, List.mem_singleton, false_or,
              reduceCtorEq, Option.some.injEq]
            constructor
            · rintro rfl
              exact ⟨own, rfl⟩
            · exact fun reason => reason.2.symm

theorem relay_switches_answer :
    ∃ state entry, Reaches (step 3) always {} state ∧ state.log[1]? = some entry ∧
      entry.frame = answerFrame ∧ (1 ∈ entry.destinations ↔ False) := by
  obtain ⟨state, reached, seen⟩ := exists_of_execute
    (show (execute (step 3) always relayEvents {}).map State.log =
      some [⟨0, broadcastFrame, [1, 2]⟩, ⟨2, answerFrame, [0]⟩] by decide +kernel)
  have station : ([⟨0, broadcastFrame, [1, 2]⟩] : List Handling) ++ [⟨2, answerFrame, [0]⟩] =
      state.log := seen.symm
  refine ⟨state, ⟨2, answerFrame, [0]⟩, reached, by rw [seen]; rfl, rfl, ?_⟩
  rw [relay_switches reached station.symm 1]
  decide +kernel

/-! ## Nothing is left over -/

/-- No thread can move. -/
def Quiet (count : Nat) (state : State) : Prop :=
  ∀ port, (∀ size, step count state (.receive port size) = none) ∧
    step count state (.route port) = none ∧ step count state (.lock port) = none ∧
      (∀ size, step count state (.write port size) = none) ∧
        step count state (.unlock port) = none ∧ step count state (.raise port) = none

namespace Quiet

theorem unlocked (quiet : Quiet count state) (locks : Locks state) (destination : Port) :
    state.sendLock destination = none := by
  cases held : state.sendLock destination with
  | none => rfl
  | some holder =>
      obtain ⟨packet, others, written, writes⟩ := locks.held destination holder held
      obtain ⟨_, _, _, write, unlock, raise⟩ := quiet holder
      simp only [step, State.unlock, State.raise, writes] at unlock raise
      rcases Nat.lt_or_eq_of_le (locks.holds _ _ _ _ _ writes).2 with short | whole
      · cases gone : state.shut destination with
        | true => simp [gone, short] at raise
        | false =>
            have write := write 1
            simp [step, State.write, writes, gone] at write
            omega
      · simp [whole] at unlock

theorem receiving (quiet : Quiet count state) (locks : Locks state) (delivered : Delivered state)
    {port : Port} (alive : state.phase port ≠ .ended) : (state.phase port).Receiving := by
  obtain ⟨_, route, lock, _⟩ := quiet port
  cases phase : state.phase port with
  | header data => trivial
  | body header length data => trivial
  | routing header frame => simp [step, State.route, phase] at route
  | sending packet destinations =>
      cases destinations with
      | nil => exact absurd phase (delivered.some port packet)
      | cons destination others =>
          simp [step, State.lock, phase, quiet.unlocked locks destination] at lock
  | writing packet destination others written =>
      have held := (locks.holds _ _ _ _ _ phase).1
      rw [quiet.unlocked locks destination] at held
      cases held
  | ended => exact alive phase

theorem used (quiet : Quiet count state) (streams : Streams state) {port : Port}
    (inside : port < count) (receiving : (state.phase port).Receiving) :
    state.incoming port = [] := by
  by_contra some
  have reads := streams.reads port
  have receive := (quiet port).1 1
  have full : ¬ (1 = 0 ∨ (state.incoming port).length < 1) := by
    have := List.length_pos_iff.mpr some
    omega
  simp only [step, if_pos inside, State.receive, if_neg full] at receive
  cases phase : state.phase port with
  | header data =>
      rw [phase] at reads
      have missing : ¬ 4 - data.length < 1 := by
        have := reads.1
        omega
      simp only [phase, if_neg missing] at receive
      split at receive
      · cases receive
      · split at receive <;> cases receive
  | body header length data =>
      rw [phase] at reads
      have missing : ¬ length - data.length < 1 := by
        have := reads.2.2.2.1
        omega
      simp only [phase, if_neg missing] at receive
      split at receive <;> cases receive
  | _ => rw [phase] at receiving; exact receiving

end Quiet

/-- When no thread can move, no lock is held, and every thread that has not ended has routed all
the packets of its stream and written each to all its destinations. -/
theorem relay_quiet_delivers (reached : Reaches (step count) always {} state)
    (quiet : Quiet count state) :
    (∀ port < count, state.phase port ≠ .ended →
        handledBy state.log port = taps.parse (state.received port) ∧
          ∀ destination, sentBy (state.written destination) port =
            routedTo state.log port destination) ∧
      ∀ destination, state.sendLock destination = none ∧
        (state.torn destination = false → state.outgoing destination =
          packets ((state.written destination).map Prod.snd)) := by
  have locks := locks_of_reaches reached
  have delivered := delivered_of_reaches reached
  constructor
  · intro port inside alive
    have receiving := quiet.receiving locks delivered alive
    have used := quiet.used (streams_of_reaches reached) inside receiving
    refine ⟨handledBy_of_used reached receiving used, ?_⟩
    intro destination
    obtain ⟨owed, sum, owes⟩ := delivered.account port destination
    have none : owed = [] := by
      rw [owes alive]
      refine Phase.owes_of_pending ?_ destination
      cases phase : state.phase port with
      | header => rfl
      | body => rfl
      | _ => rw [phase] at receiving; exact receiving.elim
    rw [← sum, none, List.append_nil]
  · intro destination
    have free := quiet.unlocked locks destination
    obtain ⟨tail, shape⟩ := (outputs_of_reaches reached).tails destination
    refine ⟨free, ?_⟩
    intro whole
    rw [shape.sent, shape.free whole free, List.append_nil]

theorem quiet_of_idle (phases : ∀ port, state.phase port = .header [])
    (used : ∀ port, state.incoming port = []) (live : ∀ port, state.shut port = false) :
    Quiet count state := by
  intro port
  refine ⟨fun size => ?_, ?_, ?_, fun size => ?_, ?_, ?_⟩
  · have none : size = 0 ∨ (state.incoming port).length < size := by
      rw [used]
      exact Nat.eq_zero_or_pos size
    simp only [step, State.receive, if_pos none]
    exact ite_self _
  · simp [step, State.route, phases]
  · simp [step, State.lock, phases]
  · simp [step, State.write, phases]
  · simp [step, State.unlock, phases]
  · simp [step, State.raise, phases, live]

theorem relay_quiet_delivers_both :
    ∃ state, Reaches (step 3) always {} state ∧
      sentBy (state.written 2) 0 = [broadcastFrame] ∧
        state.outgoing 0 = taps.packet answerFrame := by
  obtain ⟨state, executed⟩ : ∃ state,
      execute (step 3) always (relayEvents ++ relayRest) {} = some state := ⟨_, rfl⟩
  have reached := reaches_of_execute executed
  have quiet : Quiet 3 state := by
    obtain rfl := Option.some.inj executed
    refine quiet_of_idle ?_ ?_ ?_
    · rintro (_ | _ | _ | port) <;> rfl
    · rintro (_ | _ | _ | port) <;> rfl
    · exact fun _ => rfl
  have seen : (execute (step 3) always (relayEvents ++ relayRest) {}).map (fun state =>
      (state.phase 0, routedTo state.log 0 2, (state.written 0).map Prod.snd, state.torn 0)) =
        some (.header [], [broadcastFrame], [answerFrame], false) := by decide +kernel
  rw [executed, Option.map_some, Option.some.injEq] at seen
  obtain ⟨phase, routed, row, whole⟩ := by simpa only [Prod.mk.injEq] using seen
  obtain ⟨threads, sockets⟩ := relay_quiet_delivers reached quiet
  refine ⟨state, reached, ?_, ?_⟩
  · rw [(threads 0 (by decide) (by rw [phase]; nofun)).2, routed]
  · rw [(sockets 0).2 whole, row]
    exact List.append_nil _

end Udma.Relay
