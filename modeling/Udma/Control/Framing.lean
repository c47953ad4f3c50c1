import Udma.Collections.Padded
import Udma.Control.Crq

/-!
# The framing of CtrlQ events

An event is cut into descriptors: 24 bytes in the first, behind a header that holds
the number of descriptors, and 32 in each of the others.  The driver reads the
number and puts the event together again.
-/

namespace Udma.Control

open Udma.Abi Udma.Collections

/-! ## The length of an event -/

theorem foldl_patch_length {bytes : Bytes} {fields : List (Nat × Bytes)}
    (inside : ∀ field ∈ fields, field.1 + field.2.length ≤ bytes.length) :
    (fields.foldl patch bytes).length = bytes.length := by
  induction fields generalizing bytes with
  | nil => rfl
  | cons field rest inductionHypothesis =>
      have kept := patch_length (inside field (by simp))
      rw [List.foldl_cons, inductionHypothesis, kept]
      intro other member
      rw [kept]
      exact inside other (by simp [member])

@[simp]
theorem store16_length (value : Nat) : (store16 value).length = 2 := rfl

@[simp]
theorem store32_length (value : Nat) : (store32 value).length = 4 := rfl

theorem blankEvent_length {request : Bytes} (output : Nat)
    (long : headerBytes ≤ request.length) :
    (blankEvent request output).length = headerBytes + output := by
  have start : (request.take headerBytes ++ List.replicate output 0).length =
      headerBytes + output := by
    simp [Nat.min_eq_left long]
  unfold blankEvent
  rw [foldl_patch_length, start]
  intro field member
  rw [start]
  simp only [List.mem_cons, List.not_mem_nil, or_false] at member
  rcases member with rfl | rfl | rfl <;> simp [headerBytes] <;> omega

theorem seidEntry_inside (config : Config) {index : Nat} (fourth : index < 4)
    {field : Nat × Bytes} (member : field ∈ seidEntry config index) :
    field.1 + field.2.length ≤ headerBytes + 100 := by
  simp only [seidEntry, List.mem_cons, List.not_mem_nil, or_false] at member
  rcases member with rfl | rfl | rfl | rfl | rfl <;> simp <;> omega

theorem getTp_length {config : Config} {device : Device} {linkUp : List Bool}
    {request event answer : Bytes} (room : headerBytes + 44 ≤ event.length)
    (accepted : (getTp config device linkUp request event).2 = .ok answer) :
    answer.length = event.length := by
  unfold getTp at accepted
  dsimp only at accepted
  split at accepted
  · cases accepted
  split at accepted
  · cases accepted
  split at accepted
  · cases accepted
  split at accepted
  · cases accepted
  · cases accepted
    refine foldl_patch_length ?_
    intro field member
    simp only [List.mem_cons, List.not_mem_nil, or_false] at member
    rcases member with rfl | rfl | rfl <;> simp <;> omega

theorem setTpActive_length {device : Device} {linkUp : List Bool} {active : Bool}
    {request event answer : Bytes} (room : active = true → headerBytes + 8 ≤ event.length)
    (accepted : (setTpActive device linkUp active request event).2 = .ok answer) :
    answer.length = event.length := by
  unfold setTpActive at accepted
  dsimp only at accepted
  split at accepted
  · cases accepted
  split at accepted
  · cases accepted
  · cases accepted
    split
    · rename_i wanted
      refine patch_length ?_
      have bound := List.length_take_le 8 (request.drop headerBytes)
      have enough := room wanted
      dsimp only
      omega
    · rfl

theorem removeTp_length {device : Device} {pendingRma : Bool} {request event answer : Bytes}
    (accepted : (removeTp device pendingRma request event).2 = .ok answer) :
    answer.length = event.length := by
  unfold removeTp at accepted
  dsimp only at accepted
  split at accepted
  · cases accepted
  split at accepted
  · cases accepted
  · cases accepted
    rfl

/-- An accepted request has an event of the length that it asks for, and the event is
smaller than the ring. -/
theorem buildCtrlqResponse_length {config : Config} {device : Device} {linkUp : List Bool}
    {pendingRma : Bool} {depth : Nat} {request event : Bytes}
    (accepted : (buildCtrlqResponse config device linkUp pendingRma depth request).2 =
      .ok event) :
    event.length = headerBytes + load16 request 12 ∧ event.length + 8 < depth * 32 := by
  unfold buildCtrlqResponse at accepted
  dsimp only at accepted
  split at accepted
  · cases accepted
  rename_i wellFormed
  have blank := blankEvent_length (load16 request 12) (Nat.le_of_not_lt (not_or.mp wellFormed).1)
  split at accepted
  · cases accepted
  split at accepted
  · cases accepted
  rename_i opcode decoded
  split at accepted
  · cases accepted
  rename_i enough
  have output := Nat.le_of_not_lt (not_or.mp enough).2
  split at accepted
  · cases accepted
  rename_i room
  generalize blankEvent request (load16 request 12) = start at accepted blank
  have same : event.length = start.length := by
    cases opcode <;> simp only [CtrlqOpcode.minOutput] at output accepted
    case querySl =>
      obtain rfl := Except.ok.inj accepted
      refine foldl_patch_length ?_
      intro field member
      simp only [List.mem_cons, List.not_mem_nil, or_false] at member
      rcases member with rfl | rfl | rfl | rfl <;> simp <;> omega
    case queryVl =>
      obtain rfl := Except.ok.inj accepted
      exact patch_length (by simp only [List.length_cons, List.length_nil]; omega)
    case init =>
      obtain rfl := Except.ok.inj accepted
      rfl
    case querySeid =>
      obtain rfl := Except.ok.inj accepted
      refine foldl_patch_length ?_
      intro field member
      rcases List.mem_cons.mp member with rfl | listed
      · simp only [List.length_cons, List.length_nil]
        omega
      · obtain ⟨index, bound, entry⟩ := List.mem_flatMap.mp listed
        have inside := seidEntry_inside config (List.mem_range.mp bound) entry
        omega
    case getTp => exact getTp_length (by omega) accepted
    case activate => exact setTpActive_length (fun _ => by omega) accepted
    case deactivate => exact setTpActive_length (by simp) accepted
    case remove => exact removeTp_length accepted
  omega

/-! ## The descriptors of an event -/

namespace State

/-- The vector `writes` of `EmitCtrlqResponse`. -/
def crqWrites (state : State) (event : Bytes) : List Block :=
  if state.crqBase = 0 ∨ state.crqDepth = 0 then []
  else
    responseBlocks state.crqBase state.crqDepth (responseCount event) (responseCount event)
      (state.crqTail % state.crqDepth) event

/-- The memory of the guest, by the address of a descriptor, when all of them are
written.  The addresses in one ring differ by multiples of 32, so that no two
descriptors overlap. -/
def crqWritten (state : State) (event : Bytes) (memory : Nat → Bytes) : Nat → Bytes :=
  writeAll memory ((state.crqWrites event).map fun block => (block.address, block.bytes))

end State

theorem emitCtrlqResponse_writes {state : State} (event : Bytes)
    (ready : ¬ (state.crqBase = 0 ∨ state.crqDepth = 0)) :
    emitCtrlqResponse state event =
      issueBlock ({ state with responses := state.responses + 1 }.emit
          [.responding state.responses (responseCount event)])
        { response := state.responses
          blocks := state.crqWrites event
          tail := (slotAfter · 1 state.crqDepth)^[responseCount event]
            (state.crqTail % state.crqDepth) } := by
  unfold emitCtrlqResponse State.crqWrites
  rw [if_neg ready, if_neg ready]

/-- How a driver puts the event at `tail` together: byte 3 of the first descriptor says
how many there are, 24 bytes of the first and 32 of each of the others belong to it. -/
def reassemble (base depth tail : Nat) (memory : Nat → Bytes) : Bytes :=
  let first := memory (descriptorAddress base (tail % depth))
  (first.drop 8).take 24 ++
    (ringSlots depth (tail + 1) (byteAt first 3 - 1)).flatMap fun slot =>
      (memory (descriptorAddress base slot)).take 32

theorem ringSlots_take {depth origin taken count : Nat} (order : taken ≤ count) :
    (ringSlots depth origin count).take taken = ringSlots depth origin taken := by
  obtain ⟨rest, rfl⟩ := Nat.exists_eq_add_of_le order
  rw [ringSlots_append, List.take_left' (ringSlots_length ..)]

theorem ringSlots_nodup {depth count : Nat} (origin : Nat) (order : count ≤ depth) :
    (ringSlots depth origin count).Nodup := by
  have window := ringSlots_window_nodup depth origin count 0
  rwa [List.drop_zero, List.take_of_length_le (by rwa [ringSlots_length])] at window

theorem descriptorAddress_inj {base depth first second : Nat} (small : depth < 2 ^ 32)
    (firstInside : first < depth) (secondInside : second < depth)
    (same : descriptorAddress base first = descriptorAddress base second) : first = second := by
  have congruent : base + first * 32 ≡ base + second * 32 [MOD 2 ^ 64] := same
  have cells := Nat.ModEq.eq_of_lt_of_lt (Nat.ModEq.add_left_cancel' base congruent)
    (by omega) (by omega)
  omega

section Blocks

variable {base depth count : Nat}

theorem responseBlocks_address {left tail : Nat} {event : Bytes} {block : Block}
    (member : block ∈ responseBlocks base depth count left tail event) :
    block.address = descriptorAddress base block.slot := by
  induction left generalizing tail event with
  | zero => simp [responseBlocks] at member
  | succ left inductionHypothesis =>
      rw [responseBlocks, List.mem_cons] at member
      rcases member with rfl | later
      · rfl
      · exact inductionHypothesis later

/-- The descriptors behind the first carry the event alone. -/
theorem responseBlocks_chunks {taken left : Nat} (order : taken ≤ left) (behind : left < count)
    (tail : Nat) (event : Bytes) :
    ((responseBlocks base depth count left tail event).take taken).flatMap
        (fun block => block.bytes.take 32) =
      event.takeD (32 * taken) 0 := by
  induction taken generalizing left tail event with
  | zero => simp
  | succ taken inductionHypothesis =>
      cases left with
      | zero => omega
      | succ left =>
          have chunk : event.take 32 ++ List.replicate (32 - event.length) 0 =
              event.takeD 32 0 := (takeD_eq_append ..).symm
          rw [responseBlocks, List.take_succ_cons, List.flatMap_cons,
            if_neg (Nat.ne_of_lt behind)]
          simp only [List.length_nil, List.nil_append, Nat.sub_zero]
          rw [inductionHypothesis (by omega) (by omega), chunk,
            List.take_of_length_le (Nat.le_of_eq (List.takeD_length ..)), Nat.mul_succ,
            Nat.add_comm, takeD_add]

/-- The first descriptor of a response. -/
theorem responseBlocks_first (left tail : Nat) (event : Bytes) :
    responseBlocks base depth (left + 1) (left + 1) tail event =
      { slot := tail
        address := descriptorAddress base tail
        bytes := [0x0e, 0xf0, 2, UInt8.ofNat (left + 1), 0, 0, 0, 0] ++ event.takeD 24 0 } ::
        responseBlocks base depth (left + 1) left (slotAfter tail 1 depth) (event.drop 24) := by
  rw [responseBlocks, if_pos rfl, takeD_eq_append, List.append_assoc]
  rfl

end Blocks

/-! ## The round trip -/

section Ring

variable {state : State} {event : Bytes}

theorem crqWrites_slots (ready : ¬ (state.crqBase = 0 ∨ state.crqDepth = 0)) :
    (state.crqWrites event).map Block.slot =
      ringSlots state.crqDepth state.crqTail (responseCount event) := by
  have positive : 0 < state.crqDepth := Nat.pos_of_ne_zero (not_or.mp ready).2
  unfold State.crqWrites
  rw [if_neg ready, responseBlocks_slots _ _ (crqDepth_lt state) _ (Nat.mod_lt _ positive)]
  exact ringSlots_congr _ (Nat.mod_mod _ _)

theorem crqWrites_addresses (ready : ¬ (state.crqBase = 0 ∨ state.crqDepth = 0)) :
    (state.crqWrites event).map Block.address =
      (ringSlots state.crqDepth state.crqTail (responseCount event)).map
        (descriptorAddress state.crqBase) := by
  rw [← crqWrites_slots ready, List.map_map]
  refine List.map_congr_left ?_
  intro block member
  unfold State.crqWrites at member
  rw [if_neg ready] at member
  exact responseBlocks_address member

/-- The descriptors that fit the ring are read back in the order of the slots. -/
theorem crqWritten_slots (ready : ¬ (state.crqBase = 0 ∨ state.crqDepth = 0))
    (fits : responseCount event ≤ state.crqDepth) (memory : Nat → Bytes) :
    (ringSlots state.crqDepth state.crqTail (responseCount event)).map
        (fun slot => state.crqWritten event memory (descriptorAddress state.crqBase slot)) =
      (state.crqWrites event).map Block.bytes := by
  have positive : 0 < state.crqDepth := Nat.pos_of_ne_zero (not_or.mp ready).2
  have keys : ((state.crqWrites event).map fun block => (block.address, block.bytes)).map
      Prod.fst = (ringSlots state.crqDepth state.crqTail (responseCount event)).map
        (descriptorAddress state.crqBase) := by
    rw [List.map_map, ← crqWrites_addresses ready]
    rfl
  have inside : ∀ slot ∈ ringSlots state.crqDepth state.crqTail (responseCount event),
      slot < state.crqDepth := by
    intro slot member
    obtain ⟨block, -, rfl⟩ := List.mem_map.mp member
    exact Nat.mod_lt _ positive
  have once : (((state.crqWrites event).map fun block => (block.address, block.bytes)).map
      Prod.fst).Nodup := by
    rw [keys]
    refine List.Nodup.map_on ?_ (ringSlots_nodup _ fits)
    intro first firstMember second secondMember same
    exact descriptorAddress_inj (crqDepth_lt state) (inside first firstMember)
      (inside second secondMember) same
  have read := map_writeAll once memory
  rw [keys, List.map_map, List.map_map] at read
  exact read

/-- The driver gets as many bytes of the padded event as byte 3 announces. -/
theorem reassemble_eq (ready : ¬ (state.crqBase = 0 ∨ state.crqDepth = 0))
    (fits : responseCount event ≤ state.crqDepth) (memory : Nat → Bytes) :
    reassemble state.crqBase state.crqDepth state.crqTail (state.crqWritten event memory) =
      event.takeD (24 + 32 * (responseCount event % 256 - 1)) 0 := by
  obtain ⟨rest, counted⟩ : ∃ rest, responseCount event = rest + 1 :=
    ⟨responseCount event - 1, by unfold responseCount; omega⟩
  have read := crqWritten_slots ready fits memory
  unfold State.crqWrites at read
  rw [if_neg ready, counted, ringSlots_succ, responseBlocks_first, List.map_cons,
    List.map_cons, List.cons.injEq] at read
  obtain ⟨first, later⟩ := read
  have announced : byteAt (state.crqWritten event memory
      (descriptorAddress state.crqBase (state.crqTail % state.crqDepth))) 3 =
        (rest + 1) % 256 := by
    rw [first]
    exact UInt8.toNat_ofNat'
  have payload (lead : Bytes) (eight : lead.length = 8) :
      ((lead ++ event.takeD 24 0).drop 8).take 24 = event.takeD 24 0 := by
    rw [List.drop_left' eight, List.take_of_length_le (Nat.le_of_eq (List.takeD_length ..))]
  have order : (rest + 1) % 256 - 1 ≤ rest := by omega
  unfold reassemble
  dsimp only
  rw [announced, counted, takeD_add, first]
  have prefixes := congrArg (List.take ((rest + 1) % 256 - 1)) later
  rw [← List.map_take, ← List.map_take, ringSlots_take order] at prefixes
  have chunks := congrArg (fun cells => (cells.map (List.take 32)).flatten) prefixes
  simp only [List.map_map] at chunks
  refine congrArg₂ List.append (payload _ rfl) ?_
  rw [← responseBlocks_chunks order (Nat.lt_succ_self rest)]
  exact chunks

end Ring

section Accepted

variable {config : Config} {device : Device} {linkUp : List Bool} {pendingRma : Bool}
  {state : State} {request event : Bytes}

/-- An accepted event takes no more descriptors than the ring has. -/
theorem accepted_fits {depth : Nat}
    (accepted : (buildCtrlqResponse config device linkUp pendingRma depth request).2 =
      .ok event) :
    responseCount event ≤ depth := by
  have room := (buildCtrlqResponse_length accepted).2
  unfold responseCount
  omega

/-- The count that byte 3 holds is the number of descriptors only below 256 of them. -/
theorem announced_covers_iff (event : Bytes) :
    event.length ≤ 24 + 32 * (responseCount event % 256 - 1) ↔ event.length ≤ 8152 := by
  unfold responseCount
  omega

/-- The driver gets the event back exactly when byte 3 holds the number of descriptors. -/
theorem reassembled_iff (memory : Nat → Bytes)
    (ready : ¬ (state.crqBase = 0 ∨ state.crqDepth = 0))
    (fits : responseCount event ≤ state.crqDepth) :
    (∃ padding, reassemble state.crqBase state.crqDepth state.crqTail
        (state.crqWritten event memory) = event ++ List.replicate padding 0) ↔
      event.length ≤ 8152 := by
  rw [reassemble_eq ready fits, takeD_padded_iff, announced_covers_iff]

/-- A driver gets an accepted event back exactly when its output is not longer than 8124
bytes; the descriptors are in different slots of the ring in any case. -/
theorem framing_round_trip_iff (memory : Nat → Bytes) (base : state.crqBase ≠ 0)
    (accepted : (buildCtrlqResponse config device linkUp pendingRma state.crqDepth
      request).2 = .ok event) :
    ((∃ padding, reassemble state.crqBase state.crqDepth state.crqTail
        (state.crqWritten event memory) = event ++ List.replicate padding 0) ↔
      load16 request 12 ≤ 8124) ∧
    ((state.crqWrites event).map Block.slot).Nodup ∧
    (state.crqWrites event).length = responseCount event ∧
    responseCount event ≤ state.crqDepth := by
  have fits := accepted_fits accepted
  obtain ⟨length, room⟩ := buildCtrlqResponse_length accepted
  have ready : ¬ (state.crqBase = 0 ∨ state.crqDepth = 0) := by
    rintro (none | none)
    · exact base none
    · omega
  refine ⟨?_, ?_, ?_, fits⟩
  · rw [reassembled_iff memory ready fits, length]
    unfold headerBytes
    omega
  · rw [crqWrites_slots ready]
    exact ringSlots_nodup _ fits
  · rw [← List.length_map Block.slot, crqWrites_slots ready, ringSlots_length]

end Accepted

/-- A `query_sl` or `query_vl` request without input. -/
def queryRequest (opcode output : Nat) : Bytes :=
  image headerBytes [(4, store16 3), (12, store16 output), (17, [4]), (19, [UInt8.ofNat opcode])]

def queryConfig : Config where
  portCount := 1
  endpointEid := 1
  maxJettys := 16
  publicJettys := 1
  maxJfsDepth := 64
  maxJfrDepth := 64
  maxJfcDepth := 64
  buildUbiosResponse _ _ _ _ := none

/-- A device with a response ring of `8 * blocks` descriptors, whose Tail is `tail`. -/
def ringOf (blocks tail : Nat) : State where
  ubase := Words.store (Words.store (Words.store (fun _ => 0) 6 0x1000) 8 blocks) 9 tail

def queryEvent (output : Nat) : Bytes :=
  patch (blankEvent (queryRequest 1 output) output) (headerBytes, [1])

theorem framing_round_trip_small :
    ∃ padding, reassemble (ringOf 1 7).crqBase (ringOf 1 7).crqDepth (ringOf 1 7).crqTail
        ((ringOf 1 7).crqWritten (queryEvent 20) fun _ => []) =
      queryEvent 20 ++ List.replicate padding 0 := by
  have accepted : (buildCtrlqResponse queryConfig {} [] false (ringOf 1 7).crqDepth
      (queryRequest 1 20)).2 = .ok (queryEvent 20) := rfl
  exact (framing_round_trip_iff (fun _ => []) (by decide) accepted).1.mpr (by decide)

/-- A response of 256 descriptors announces none. -/
theorem framing_loses_long_output :
    ¬ ∀ (config : Config) (device : Device) (linkUp : List Bool) (pendingRma : Bool)
      (state : State) (request event : Bytes) (memory : Nat → Bytes),
      state.crqBase ≠ 0 →
      (buildCtrlqResponse config device linkUp pendingRma state.crqDepth request).2 =
        .ok event →
      ∃ padding, reassemble state.crqBase state.crqDepth state.crqTail
        (state.crqWritten event memory) = event ++ List.replicate padding 0 := by
  intro claim
  have accepted : (buildCtrlqResponse queryConfig {} [] false (ringOf 64 0).crqDepth
      (queryRequest 1 8125)).2 = .ok (queryEvent 8125) := rfl
  have length := (buildCtrlqResponse_length accepted).1
  have back := claim _ _ _ _ _ _ _ (fun _ => []) (by decide) accepted
  rw [reassembled_iff _ (by decide) (accepted_fits accepted), length] at back
  exact absurd back (by decide)

end Udma.Control
