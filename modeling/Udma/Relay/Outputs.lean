import Udma.Relay.Streams

/-!
# What the relay sends

The lock of a socket keeps packets apart: what a socket has been sent is a row of whole
packets and a part of one more.  Each frame of a source reaches a destination once, in the
order of the source.
-/

namespace Udma.Relay

open Udma.Collections Udma.Transition

/-! ## Locks -/

def Phase.Writing : Phase → Prop
  | .writing .. => True
  | _ => False

theorem Phase.Goes.not_writing {packet : List UInt8} {destinations : List Port} {phase : Phase}
    (goes : phase.Goes packet destinations) : ¬ phase.Writing := by
  cases goes <;> exact id

/-- The lock of a socket is held by the thread that writes to it. -/
structure Locks (state : State) : Prop where
  held : ∀ destination port, state.sendLock destination = some port →
    ∃ packet others written, state.phase port = .writing packet destination others written
  holds : ∀ port packet destination others written,
    state.phase port = .writing packet destination others written →
      state.sendLock destination = some port ∧ written ≤ packet.length

namespace Locks

variable {count : Nat} {state after : State}

theorem initial : Locks {} where
  held := nofun
  holds := nofun

/-- A thread moves outside the locks. -/
theorem turn (locks : Locks state) {port : Port} {phase : Phase}
    (phases : after.phase = Function.update state.phase port phase)
    (same : after.sendLock = state.sendLock) (was : ¬ (state.phase port).Writing)
    (is : ¬ phase.Writing) : Locks after where
  held := by
    intro destination holder held
    rw [same] at held
    obtain ⟨packet, others, written, writes⟩ := locks.held destination holder held
    have other : holder ≠ port := by
      rintro rfl
      rw [writes] at was
      exact was trivial
    exact ⟨packet, others, written, by rw [phases, Function.update_of_ne other, writes]⟩
  holds := by
    intro holder packet destination others written writes
    rw [phases] at writes
    by_cases own : holder = port
    · subst own
      rw [Function.update_self] at writes
      exact absurd (writes ▸ trivial) is
    · rw [Function.update_of_ne own] at writes
      rw [same]
      exact locks.holds holder packet destination others written writes

/-- The writer of a socket goes on without its lock. -/
theorem release (locks : Locks state) {port destination : Port} {packet : List UInt8}
    {others : List Port} {written : Nat} {phase : Phase}
    (writes : state.phase port = .writing packet destination others written)
    (phases : after.phase = Function.update state.phase port phase)
    (freed : after.sendLock = Function.update state.sendLock destination none)
    (is : ¬ phase.Writing) : Locks after where
  held := by
    intro other holder held
    rw [freed] at held
    by_cases own : other = destination
    · subst own
      simp at held
    · rw [Function.update_of_ne own] at held
      obtain ⟨packet', others', written', found⟩ := locks.held other holder held
      have apart : holder ≠ port := by
        rintro rfl
        rw [writes] at found
        injection found with _ same
        exact own same.symm
      exact ⟨packet', others', written', by rw [phases, Function.update_of_ne apart, found]⟩
  holds := by
    intro holder packet' other others' written' found
    rw [phases] at found
    by_cases own : holder = port
    · subst own
      rw [Function.update_self] at found
      exact absurd (found ▸ trivial) is
    · rw [Function.update_of_ne own] at found
      obtain ⟨held, inside⟩ := locks.holds holder packet' other others' written' found
      have apart : other ≠ destination := by
        rintro rfl
        rw [(locks.holds port packet other others written writes).1, Option.some.injEq] at held
        exact own held.symm
      exact ⟨by rw [freed, Function.update_of_ne apart, held], inside⟩

/-- A thread that holds the lock of a socket, or takes it while it is free, writes. -/
theorem write (locks : Locks state) {port destination : Port} {packet : List UInt8}
    {others : List Port} {written : Nat}
    (phases : after.phase =
      Function.update state.phase port (.writing packet destination others written))
    (taken : after.sendLock = Function.update state.sendLock destination (some port))
    (inside : written ≤ packet.length)
    (was : state.sendLock destination = none ∧ ¬ (state.phase port).Writing ∨
      ∃ packet others written, state.phase port = .writing packet destination others written) :
    Locks after where
  held := by
    intro other holder held
    rw [taken] at held
    by_cases own : holder = port
    · subst own
      rw [phases, Function.update_self]
      by_cases same : other = destination
      · exact same ▸ ⟨packet, others, written, rfl⟩
      · rw [Function.update_of_ne same] at held
        obtain ⟨packet', others', written', found⟩ := locks.held other holder held
        rcases was with ⟨_, still⟩ | ⟨_, _, _, writes⟩
        · rw [found] at still
          exact absurd trivial still
        · rw [writes] at found
          injection found with _ apart
          exact absurd apart.symm same
    · have apart : other ≠ destination := by
        rintro rfl
        rw [Function.update_self, Option.some.injEq] at held
        exact own held.symm
      rw [Function.update_of_ne apart] at held
      rw [phases, Function.update_of_ne own]
      exact locks.held other holder held
  holds := by
    intro holder packet' other others' written' found
    rw [phases] at found
    rw [taken]
    by_cases own : holder = port
    · subst own
      rw [Function.update_self] at found
      injection found with same aim _ size
      subst same aim size
      exact ⟨Function.update_self .., inside⟩
    · rw [Function.update_of_ne own] at found
      obtain ⟨held, within⟩ := locks.holds holder packet' other others' written' found
      have apart : other ≠ destination := by
        rintro rfl
        rcases was with ⟨free, _⟩ | ⟨_, _, _, writes⟩
        · rw [free] at held
          cases held
        · rw [(locks.holds _ _ _ _ _ writes).1, Option.some.injEq] at held
          exact own held.symm
      exact ⟨by rw [Function.update_of_ne apart, held], within⟩

theorem move (locks : Locks state) (moved : Moved count state after) : Locks after := by
  cases moved with
  | arrive port bytes => exact ⟨locks.held, locks.holds⟩
  | shut port => exact ⟨locks.held, locks.holds⟩
  | @header port data size phase inside short =>
      exact locks.turn rfl rfl (by rw [phase]; exact id) id
  | @headed port data size phase inside whole valid =>
      exact locks.turn rfl rfl (by rw [phase]; exact id) id
  | @refused port data size phase inside =>
      exact locks.turn rfl rfl (by rw [phase]; exact id) id
  | @body port header data length size phase inside short =>
      exact locks.turn rfl rfl (by rw [phase]; exact id) id
  | @framed port header data length size phase inside whole =>
      exact locks.turn rfl rfl (by rw [phase]; exact id) id
  | @routed port header frame chosen next phase choose shape =>
      obtain ⟨going, goes, sent⟩ := next.send_eq port (header ++ frame) chosen
      rw [state.learn_eq port frame] at shape
      rw [sent, shape]
      exact locks.turn rfl rfl (by rw [phase]; exact id) goes.not_writing
  | @locked port destination packet others phase free =>
      exact locks.write rfl rfl (Nat.zero_le _) (.inl ⟨free, by rw [phase]; exact id⟩)
  | @wrote port destination packet others written size phase live inside =>
      have held := (locks.holds _ _ _ _ _ phase).1
      exact locks.write rfl (by rw [← held]; exact (Function.update_eq_self ..).symm) inside
        (.inr ⟨packet, others, written, phase⟩)
  | @unlocked port destination packet others next phase shape =>
      obtain ⟨going, goes, sent⟩ := next.send_eq port packet others
      rw [sent, shape]
      exact locks.release phase rfl rfl goes.not_writing
  | @failed port phase =>
      refine locks.turn rfl rfl ?_ id
      rcases phase with ⟨data, phase⟩ | ⟨header, length, data, phase⟩
      · rw [phase]; exact id
      · rw [phase]; exact id
  | @tore port destination packet others written phase gone short =>
      exact locks.release phase rfl rfl id

end Locks

theorem locks_of_reaches {count : Nat} {state : State}
    (reached : Reaches (step count) always {} state) : Locks state :=
  reached.invariant .initial fun _ _ _ locks taken _ => locks.move (step_moved taken)

/-! ## Packets -/

/-- Less than one whole packet. -/
def Part (tail : List UInt8) : Prop :=
  ∃ frame size, taps.Valid frame ∧ size < (taps.packet frame).length ∧
    tail = (taps.packet frame).take size

theorem part_nil : Part [] :=
  ⟨List.replicate 14 0, 0, rfl, by decide, rfl⟩

theorem Part.parse {tail : List UInt8} (part : Part tail) : taps.parse tail = [] := by
  obtain ⟨frame, size, valid, short, rfl⟩ := part
  exact LengthPrefix.parse_partial valid short

/-- What a socket has been sent behind the packets that were written whole. -/
structure Tail (state : State) (destination : Port) (tail : List UInt8) : Prop where
  sent : state.outgoing destination =
    packets ((state.written destination).map Prod.snd) ++ tail
  free : state.torn destination = false → state.sendLock destination = none → tail = []
  writing : state.torn destination = false → ∀ port packet others written,
    state.phase port = .writing packet destination others written → tail = packet.take written
  torn : state.torn destination = true → state.shut destination = true ∧ Part tail
  stuck : state.torn destination = true → ∀ port packet others written,
    state.phase port = .writing packet destination others written → written = 0

structure Outputs (state : State) : Prop where
  tails : ∀ destination, ∃ tail, Tail state destination tail
  valid : ∀ destination, ∀ entry ∈ state.written destination, taps.Valid entry.2

/-- The writers to a destination, when one thread has moved to something else. -/
theorem writes_of_update {phases : Port → Phase} {port holder : Port} {phase : Phase}
    {packet : List UInt8} {destination : Port} {others : List Port} {written : Nat}
    (found : Function.update phases port phase holder =
      .writing packet destination others written)
    (aim : ∀ packet others written, phase ≠ .writing packet destination others written) :
    phases holder = .writing packet destination others written := by
  by_cases own : holder = port
  · subst own
    rw [Function.update_self] at found
    exact absurd found (aim _ _ _)
  · rwa [Function.update_of_ne own] at found

theorem Phase.ne_writing {phase : Phase} (other : ¬ phase.Writing) {destination : Port}
    (packet : List UInt8) (others : List Port) (written : Nat) :
    phase ≠ .writing packet destination others written := by
  rintro rfl
  exact other trivial

namespace Outputs

variable {count : Nat} {state after : State}

theorem initial : Outputs {} where
  tails := fun _ => ⟨[], rfl, fun _ _ => rfl, nofun, nofun, nofun⟩
  valid := nofun

theorem tail_of_eq {destination : Port} {tail : List UInt8} (shape : Tail state destination tail)
    (outgoing : after.outgoing destination = state.outgoing destination)
    (rows : after.written destination = state.written destination)
    (torn : after.torn destination = state.torn destination)
    (locks : after.sendLock destination = state.sendLock destination)
    (shut : state.shut destination = true → after.shut destination = true)
    (phases : ∀ port packet others written,
      after.phase port = .writing packet destination others written →
        state.phase port = .writing packet destination others written) :
    Tail after destination tail where
  sent := by rw [outgoing, rows, shape.sent]
  free := by rw [torn, locks]; exact shape.free
  writing := by
    rw [torn]
    intro whole port packet others written writes
    exact shape.writing whole port packet others written (phases _ _ _ _ writes)
  torn := by
    rw [torn]
    intro broken
    exact ⟨shut (shape.torn broken).1, (shape.torn broken).2⟩
  stuck := by
    rw [torn]
    intro broken port packet others written writes
    exact shape.stuck broken port packet others written (phases _ _ _ _ writes)

/-- A thread moves outside the locks. -/
theorem turn (outputs : Outputs state) {port : Port} {phase : Phase}
    (phases : after.phase = Function.update state.phase port phase) (is : ¬ phase.Writing)
    (outgoing : after.outgoing = state.outgoing) (rows : after.written = state.written)
    (torn : after.torn = state.torn) (locks : after.sendLock = state.sendLock)
    (shut : after.shut = state.shut) : Outputs after where
  tails := by
    intro destination
    obtain ⟨tail, shape⟩ := outputs.tails destination
    refine ⟨tail, tail_of_eq shape (by rw [outgoing]) (by rw [rows]) (by rw [torn])
      (by rw [locks]) (by rw [shut]; exact id) ?_⟩
    intro holder packet others written writes
    exact writes_of_update (phases ▸ writes) (Phase.ne_writing is)
  valid := by rw [rows]; exact outputs.valid

/-- One destination changes. -/
theorem at_one (outputs : Outputs state) {destination : Port}
    (outgoing : ∀ other, other ≠ destination → after.outgoing other = state.outgoing other)
    (rows : ∀ other, other ≠ destination → after.written other = state.written other)
    (torn : ∀ other, other ≠ destination → after.torn other = state.torn other)
    (locks : ∀ other, other ≠ destination → after.sendLock other = state.sendLock other)
    (shut : after.shut = state.shut)
    (phases : ∀ other, other ≠ destination → ∀ port packet others written,
      after.phase port = .writing packet other others written →
        state.phase port = .writing packet other others written)
    (changed : ∃ tail, Tail after destination tail)
    (valid : ∀ entry ∈ after.written destination, taps.Valid entry.2) : Outputs after where
  tails := by
    intro other
    by_cases same : other = destination
    · exact same ▸ changed
    · obtain ⟨tail, shape⟩ := outputs.tails other
      exact ⟨tail, tail_of_eq shape (outgoing other same) (rows other same) (torn other same)
        (locks other same) (by rw [shut]; exact id) (phases other same)⟩
  valid := by
    intro other
    by_cases same : other = destination
    · exact same ▸ valid
    · rw [rows other same]
      exact outputs.valid other

theorem lock (outputs : Outputs state) {port destination : Port} {packet : List UInt8}
    {others : List Port} (free : state.sendLock destination = none) (locks : Locks state) :
    Outputs { state.setPhase port (.writing packet destination others 0) with
      sendLock := Function.update state.sendLock destination (some port) } := by
  have nobody : ∀ holder packet others written,
      state.phase holder ≠ .writing packet destination others written := by
    intro holder packet others written writes
    rw [(locks.holds _ _ _ _ _ writes).1] at free
    cases free
  have alone : ∀ holder packet' others' written,
      (state.setPhase port (.writing packet destination others 0)).phase holder =
        .writing packet' destination others' written → written = 0 := by
    intro holder packet' others' written writes
    simp only [State.setPhase] at writes
    by_cases own : holder = port
    · subst own
      rw [Function.update_self] at writes
      injection writes with _ _ _ size
      exact size.symm
    · rw [Function.update_of_ne own] at writes
      exact absurd writes (nobody _ _ _ _)
  refine outputs.at_one (fun _ _ => rfl) (fun _ _ => rfl) (fun _ _ => rfl)
    (fun other apart => Function.update_of_ne apart ..) rfl ?_ ?_ (outputs.valid destination)
  · intro other apart holder packet' others' written writes
    refine writes_of_update writes ?_
    intro packet'' others'' written'' same
    injection same with _ aim
    exact apart aim.symm
  · obtain ⟨tail, shape⟩ := outputs.tails destination
    refine ⟨tail, shape.sent, ?_, ?_, shape.torn, fun _ => alone⟩
    · intro _ taken
      simp at taken
    · intro whole holder packet' others' written writes
      rw [alone _ _ _ _ writes, shape.free whole free, List.take_zero]

theorem write (outputs : Outputs state) {port destination : Port} {packet : List UInt8}
    {others : List Port} {written size : Nat}
    (phase : state.phase port = .writing packet destination others written)
    (live : state.shut destination = false) (locks : Locks state) :
    Outputs { state.setPhase port (.writing packet destination others (written + size)) with
      outgoing := Function.update state.outgoing destination
        (state.outgoing destination ++ (packet.drop written).take size) } := by
  have held := (locks.holds _ _ _ _ _ phase).1
  refine outputs.at_one (fun other apart => Function.update_of_ne apart ..) (fun _ _ => rfl)
    (fun _ _ => rfl) (fun _ _ => rfl) rfl ?_ ?_ (outputs.valid destination)
  · intro other apart holder packet' others' written' writes
    refine writes_of_update writes ?_
    intro packet'' others'' written'' same
    injection same with _ aim
    exact apart aim.symm
  · obtain ⟨tail, shape⟩ := outputs.tails destination
    have whole : state.torn destination = false := by
      by_contra broken
      rw [Bool.not_eq_false] at broken
      rw [(shape.torn broken).1] at live
      cases live
    have grown : packet.take written ++ (packet.drop written).take size =
        packet.take (written + size) := List.take_add.symm
    refine ⟨packet.take (written + size), ?_, ?_, ?_, ?_, ?_⟩
    · change Function.update state.outgoing destination _ destination = _
      rw [Function.update_self, shape.sent, shape.writing whole _ _ _ _ phase, List.append_assoc,
        grown]
      rfl
    · intro _ free
      change state.sendLock destination = none at free
      rw [held] at free
      cases free
    · intro _ holder packet' others' written' writes
      simp only [State.setPhase] at writes
      by_cases own : holder = port
      · subst own
        rw [Function.update_self] at writes
        injection writes with same _ _ count
        rw [same, count]
      · rw [Function.update_of_ne own] at writes
        have other := (locks.holds _ _ _ _ _ writes).1
        rw [held, Option.some.injEq] at other
        exact absurd other.symm own
    · intro broken
      change state.torn destination = true at broken
      rw [whole] at broken
      cases broken
    · intro broken
      change state.torn destination = true at broken
      rw [whole] at broken
      cases broken

/-- Nobody writes to a socket whose lock was released. -/
theorem nobody_of_release (locks : Locks state) {port destination : Port} {packet : List UInt8}
    {others : List Port} {written : Nat} {phase : Phase}
    (writes : state.phase port = .writing packet destination others written)
    (is : ¬ phase.Writing) (holder : Port) (packet' : List UInt8) (others' : List Port)
    (written' : Nat) :
    Function.update state.phase port phase holder ≠
      .writing packet' destination others' written' := by
  intro found
  have before := writes_of_update found (Phase.ne_writing is)
  have held := (locks.holds _ _ _ _ _ writes).1
  rw [(locks.holds _ _ _ _ _ before).1, Option.some.injEq] at held
  subst held
  rw [Function.update_self] at found
  exact Phase.ne_writing is _ _ _ found

theorem unlock (outputs : Outputs state) {port destination : Port} {frame : Frame}
    {others : List Port} {phase : Phase}
    (writes : state.phase port =
      .writing (taps.packet frame) destination others (taps.packet frame).length)
    (is : ¬ phase.Writing) (valid : taps.Valid frame) (locks : Locks state) :
    Outputs { state with
      phase := Function.update state.phase port phase
      sendLock := Function.update state.sendLock destination none
      written := Function.update state.written destination
        (state.written destination ++ [(port, frame)]) } := by
  refine outputs.at_one (fun _ _ => rfl) (fun other apart => Function.update_of_ne apart ..)
    (fun _ _ => rfl) (fun other apart => Function.update_of_ne apart ..) rfl ?_ ?_ ?_
  · intro other apart holder packet' others' written' found
    exact writes_of_update found (Phase.ne_writing is)
  · obtain ⟨tail, shape⟩ := outputs.tails destination
    have whole : state.torn destination = false := by
      by_contra broken
      rw [Bool.not_eq_false] at broken
      have none := shape.stuck broken _ _ _ _ writes
      rw [LengthPrefix.length_packet] at none
      exact absurd none (by have : taps.width = 4 := rfl; omega)
    refine ⟨[], ?_, fun _ _ => rfl, ?_, ?_, ?_⟩
    · change state.outgoing destination =
        packets ((Function.update state.written destination _ destination).map Prod.snd) ++ []
      rw [Function.update_self, List.map_append, List.map_singleton, packets_append_single,
        List.append_nil, shape.sent, shape.writing whole _ _ _ _ writes, List.take_length]
    · intro _ holder packet' others' written' found
      exact absurd found (nobody_of_release locks writes is _ _ _ _)
    · intro broken
      change state.torn destination = true at broken
      rw [whole] at broken
      cases broken
    · intro _ holder packet' others' written' found
      exact absurd found (nobody_of_release locks writes is _ _ _ _)
  · intro entry listed
    change entry ∈ Function.update state.written destination _ destination at listed
    rw [Function.update_self, List.mem_append, List.mem_singleton] at listed
    rcases listed with earlier | rfl
    · exact outputs.valid destination entry earlier
    · exact valid

theorem tear (outputs : Outputs state) {port destination : Port} {frame : Frame}
    {others : List Port} {written : Nat}
    (writes : state.phase port = .writing (taps.packet frame) destination others written)
    (valid : taps.Valid frame) (gone : state.shut destination = true)
    (short : written < (taps.packet frame).length) (locks : Locks state) :
    Outputs { state.fail port with
      sendLock := Function.update state.sendLock destination none
      torn := Function.update state.torn destination true } := by
  refine outputs.at_one (fun _ _ => rfl) (fun _ _ => rfl)
    (fun other apart => Function.update_of_ne apart ..)
    (fun other apart => Function.update_of_ne apart ..) rfl ?_ ?_ (outputs.valid destination)
  · intro other apart holder packet' others' written' found
    exact writes_of_update found (Phase.ne_writing id)
  · obtain ⟨tail, shape⟩ := outputs.tails destination
    have broken : Function.update state.torn destination true destination ≠ false := by
      rw [Function.update_self]
      exact nofun
    refine ⟨tail, shape.sent, fun whole => absurd whole broken, fun whole => absurd whole broken,
      fun _ => ⟨gone, ?_⟩, ?_⟩
    · cases earlier : state.torn destination with
      | true => exact (shape.torn earlier).2
      | false => exact ⟨frame, written, valid, short, shape.writing earlier _ _ _ _ writes⟩
    · intro _ holder packet' others' written' found
      exact absurd found (nobody_of_release locks writes id _ _ _ _)

/-- The packet in hand is that of a valid frame. -/
theorem packet_of_reads {packet : List UInt8} {destination port : Port} {others : List Port}
    {written : Nat} (streams : Streams state)
    (writes : state.phase port = .writing packet destination others written) :
    ∃ frame, taps.Valid frame ∧ packet = taps.packet frame := by
  have reads := streams.reads port
  rw [writes] at reads
  obtain ⟨_, earlier, frame, last, whole⟩ := reads
  have listed : frame ∈ handledBy state.log port := by
    rw [last]
    exact List.mem_append_right _ (List.mem_singleton_self _)
  obtain ⟨entry, inside, rfl⟩ := List.mem_map.mp listed
  exact ⟨entry.frame, streams.valid entry (List.mem_filter.mp inside).1, whole⟩

theorem move (outputs : Outputs state) (streams : Streams state) (locks : Locks state)
    (moved : Moved count state after) : Outputs after := by
  cases moved with
  | arrive port bytes =>
      refine ⟨fun destination => ?_, outputs.valid⟩
      obtain ⟨tail, shape⟩ := outputs.tails destination
      exact ⟨tail, tail_of_eq shape rfl rfl rfl rfl id fun _ _ _ _ => id⟩
  | shut port =>
      refine ⟨fun destination => ?_, outputs.valid⟩
      obtain ⟨tail, shape⟩ := outputs.tails destination
      refine ⟨tail, tail_of_eq shape rfl rfl rfl rfl ?_ fun _ _ _ _ => id⟩
      intro gone
      change Function.update state.shut port true destination = true
      by_cases same : destination = port
      · rw [same, Function.update_self]
      · rw [Function.update_of_ne same, gone]
  | header | headed | refused | body | framed => exact outputs.turn rfl id rfl rfl rfl rfl rfl
  | @routed port header frame chosen next phase choose shape =>
      obtain ⟨going, goes, sent⟩ := next.send_eq port (header ++ frame) chosen
      rw [state.learn_eq port frame] at shape
      rw [sent, shape]
      exact outputs.turn rfl goes.not_writing rfl rfl rfl rfl rfl
  | @locked port destination packet others phase free => exact outputs.lock free locks
  | @wrote port destination packet others written size phase live inside =>
      exact outputs.write phase live locks
  | @unlocked port destination packet others next phase shape =>
      obtain ⟨going, goes, sent⟩ := next.send_eq port packet others
      obtain ⟨frame, valid, rfl⟩ := packet_of_reads streams phase
      rw [drop_packet] at shape
      rw [sent, shape]
      exact outputs.unlock phase goes.not_writing valid locks
  | failed => exact outputs.turn rfl id rfl rfl rfl rfl rfl
  | @tore port destination packet others written phase gone short =>
      obtain ⟨frame, valid, rfl⟩ := packet_of_reads streams phase
      exact outputs.tear phase valid gone short locks

end Outputs

theorem outputs_of_reaches {count : Nat} {state : State}
    (reached : Reaches (step count) always {} state) : Outputs state :=
  reached.induction_on Outputs .initial fun _ _ _ earlier outputs taken _ =>
    outputs.move (streams_of_reaches earlier) (locks_of_reaches earlier) (step_moved taken)

end Udma.Relay
