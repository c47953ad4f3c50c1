import Udma.Collections.RingSlots
import Udma.Control.Depth

/-!
# The response ring

A response takes its slots when it begins, from the Tail register on, and stores
Tail when its last descriptor has been written.  The blocks of all responses are
consecutive as long as each response begins after Tail was stored for the ones
before.
-/

namespace Udma.Control

open Udma.Abi Udma.Collections Udma.Transition

variable {config : Config} {state after before : State} {event : Event}

/-! ## What is seen of the ring -/

def Observation.count : Observation → Option Nat
  | .responding _ count => some count
  | _ => none

def Observation.block : Observation → Option (Nat × Nat)
  | .crqDma response slot _ _ => some (response, slot)
  | _ => none

def Observation.publication : Observation → Option Nat
  | .published response _ => some response
  | _ => none

/-- The numbers of descriptors of the responses that have begun. -/
def countsOf (trace : List Observation) : List Nat := trace.filterMap Observation.count

/-- The descriptor writes: the response and the slot. -/
def blocksOf (trace : List Observation) : List (Nat × Nat) := trace.filterMap Observation.block

/-- The responses for which Tail was stored. -/
def publishedOf (trace : List Observation) : List Nat := trace.filterMap Observation.publication

def Callback.emission : Callback → Option Emission
  | .blockWritten emission => some emission
  | _ => none

/-- The responses that are being written. -/
def State.flying (state : State) : List Emission := state.outstanding.filterMap Callback.emission

/-- The response ring: its registers and what was done to it. -/
structure Crq where
  depth : Nat
  tail : Nat
  begun : Nat
  counts : List Nat
  blocks : List (Nat × Nat)
  published : List Nat

@[simps]
def State.crq (state : State) : Crq where
  depth := state.crqDepth
  tail := state.crqTail
  begun := state.responses
  counts := countsOf state.trace
  blocks := blocksOf state.trace
  published := publishedOf state.trace

/-! ## The slots of a response -/

theorem crqDepth_lt (state : State) : state.crqDepth < 2 ^ 32 := Nat.mod_lt _ (by decide)

theorem slotAfter_one {slot depth : Nat} (inside : slot < depth) (small : depth < 2 ^ 32) :
    slotAfter slot 1 depth = (slot + 1) % depth := by
  unfold slotAfter
  rw [Nat.mod_eq_of_lt (Nat.lt_of_le_of_lt inside small)]

theorem responseBlocks_slots (base count : Nat) {depth : Nat} (small : depth < 2 ^ 32)
    (left : Nat) {tail : Nat} (inside : tail < depth) (event : Bytes) :
    (responseBlocks base depth count left tail event).map Block.slot =
      ringSlots depth tail left := by
  induction left generalizing tail event with
  | zero => rfl
  | succ left inductionHypothesis =>
      have positive : 0 < depth := Nat.lt_of_le_of_lt (Nat.zero_le _) inside
      rw [responseBlocks, List.map_cons, ringSlots_succ, Nat.mod_eq_of_lt inside,
        slotAfter_one inside small, inductionHypothesis (Nat.mod_lt _ positive)]
      congr 1
      exact ringSlots_congr left (Nat.mod_mod _ _)

theorem responseTail {depth : Nat} (small : depth < 2 ^ 32) (count : Nat) {tail : Nat}
    (inside : tail < depth) :
    (slotAfter · 1 depth)^[count] tail = (tail + count) % depth := by
  induction count generalizing tail with
  | zero => exact (Nat.mod_eq_of_lt inside).symm
  | succ count inductionHypothesis =>
      have positive : 0 < depth := Nat.lt_of_le_of_lt (Nat.zero_le _) inside
      rw [Function.iterate_succ_apply, slotAfter_one inside small,
        inductionHypothesis (Nat.mod_lt _ positive), Nat.mod_add_mod]
      congr 1
      omega

/-! ## The invariant -/

/-- How far the responses have come.  `published` is the number of those for which Tail
was stored; at most one more has begun. -/
inductive Filling (depth origin : Nat) (counts : List Nat) (blocks : List (Nat × Nat))
    (published : Nat) : List Emission → Prop where
  | settled : published = counts.length → blocks.map Prod.fst = groups 0 counts →
      Filling depth origin counts blocks published []
  | abandoned (complete : List Nat) (count written : Nat) : counts = complete ++ [count] →
      published = complete.length →
      blocks.map Prod.fst = groups 0 complete ++ List.replicate written complete.length →
      written ≤ count → Filling depth origin counts blocks published []
  | open_ (complete : List Nat) (count written : Nat) (emission : Emission) :
      counts = complete ++ [count] → published = complete.length →
      blocks.map Prod.fst = groups 0 complete ++ List.replicate written complete.length →
      count = written + emission.blocks.length → emission.response = complete.length →
      emission.blocks.map Block.slot =
        ringSlots depth (origin + blocks.length) emission.blocks.length →
      emission.tail = (origin + counts.sum) % depth →
      Filling depth origin counts blocks published [emission]

/-- The response ring, with the responses in `emissions` being written. -/
structure Crq.Tidy (crq : Crq) (origin : Nat) (emissions : List Emission) : Prop where
  begun : crq.begun = crq.counts.length
  published : crq.published = List.range crq.published.length
  deep : crq.counts = [] ∨ crq.depth ≠ 0
  slots : crq.blocks.map Prod.snd = ringSlots crq.depth origin crq.blocks.length
  tail : crq.tail % crq.depth =
    (origin + (crq.counts.take crq.published.length).sum) % crq.depth
  filling : Filling crq.depth origin crq.counts crq.blocks crq.published.length emissions

namespace Crq

variable {crq : Crq} {origin : Nat} {emissions : List Emission} {emission : Emission}

/-- Before the first response, Tail is where the ring begins. -/
theorem Tidy.fresh (begun : crq.begun = 0) (counts : crq.counts = []) (blocks : crq.blocks = [])
    (published : crq.published = []) : crq.Tidy crq.tail [] where
  begun := by rw [begun, counts]; rfl
  published := by rw [published]; rfl
  deep := .inl counts
  slots := by rw [blocks]; rfl
  tail := by rw [counts, published]; rfl
  filling := by
    rw [counts, blocks, published]
    exact .settled rfl rfl

theorem Tidy.none_begun (tidy : crq.Tidy origin emissions) (none : crq.begun = 0) :
    crq.counts = [] ∧ crq.blocks = [] ∧ crq.published = [] ∧ emissions = [] := by
  have counts : crq.counts = [] := List.length_eq_zero_iff.mp (tidy.begun.symm.trans none)
  have filling := tidy.filling
  rw [counts] at filling
  cases filling with
  | settled published blocks =>
      exact ⟨counts, List.map_eq_nil_iff.mp blocks, List.length_eq_zero_iff.mp published, rfl⟩
  | abandoned complete count written shape => simp at shape
  | open_ complete count written emission shape => simp at shape

/-- All earlier responses are complete. -/
theorem Tidy.settled (tidy : crq.Tidy origin emissions)
    (complete : crq.published.length = crq.begun) :
    crq.blocks.map Prod.fst = groups 0 crq.counts ∧ emissions = [] := by
  have filling := tidy.filling
  rw [complete, tidy.begun] at filling
  cases filling with
  | settled published blocks => exact ⟨blocks, rfl⟩
  | abandoned complete count written shape published =>
      rw [shape] at published
      simp at published
  | open_ complete count written emission shape published =>
      rw [shape] at published
      simp at published

/-- A response begins behind the last one. -/
theorem Tidy.begin (tidy : crq.Tidy origin emissions)
    (complete : crq.published.length = crq.begun) (nonzero : crq.depth ≠ 0)
    (count : Nat) (blocks : List Block) (counted : blocks.length = count)
    (slots : blocks.map Block.slot = ringSlots crq.depth (crq.tail % crq.depth) count) :
    Tidy { crq with begun := crq.begun + 1, counts := crq.counts ++ [count] } origin
      [⟨crq.begun, blocks, (crq.tail % crq.depth + count) % crq.depth⟩] := by
  obtain ⟨owners, _⟩ := tidy.settled complete
  have size : crq.blocks.length = crq.counts.sum := by
    rw [← groups_length 0 crq.counts, ← owners, List.length_map]
  have place : crq.tail % crq.depth = (origin + crq.blocks.length) % crq.depth := by
    rw [tidy.tail, complete, tidy.begun, List.take_length, size]
  refine ⟨?_, tidy.published, .inr nonzero, tidy.slots, ?_, ?_⟩
  · simp [tidy.begun]
  · rw [tidy.tail]
    congr 3
    rw [List.take_append_of_le_length (by rw [complete, tidy.begun])]
  · refine .open_ crq.counts count 0 _ rfl (complete.trans tidy.begun) ?_ ?_ tidy.begun ?_ ?_
    · simpa using owners
    · simp [counted]
    · rw [slots, counted]
      exact ringSlots_congr count (by rw [Nat.mod_mod, place])
    · rw [place, Nat.mod_add_mod, size, List.sum_append, List.sum_singleton, Nat.add_assoc]

/-- The next descriptor of a response goes to the next slot. -/
theorem Tidy.write (tidy : crq.Tidy origin [emission]) {block : Block} {rest : List Block}
    (more : emission.blocks = block :: rest) :
    Tidy { crq with blocks := crq.blocks ++ [(emission.response, block.slot)] } origin
      [{ emission with blocks := rest }] := by
  obtain ⟨begun, published, deep, slots, tail, filling⟩ := tidy
  cases filling with
  | open_ complete count written emission shape order owners left response next last =>
  rw [more, List.map_cons, List.length_cons, ringSlots_succ] at next
  obtain ⟨here, further⟩ := List.cons.inj next
  refine ⟨begun, published, deep, ?_, tail, ?_⟩
  · rw [List.map_append, slots, List.length_append, List.length_singleton, ringSlots_append,
      ringSlots_succ, List.map_singleton, here]
    rfl
  · refine .open_ complete count (written + 1) _ shape order ?_ ?_ response ?_ last
    · rw [List.map_append, owners, List.replicate_succ', List.append_assoc, response]
      rfl
    · rw [left, more, List.length_cons]
      change written + (rest.length + 1) = written + 1 + rest.length
      omega
    · rw [List.length_append, List.length_singleton]
      exact further

/-- Behind the last descriptor, Tail is stored. -/
theorem Tidy.publish (tidy : crq.Tidy origin [emission]) (small : crq.depth < 2 ^ 32)
    (whole : emission.blocks = []) :
    Tidy { crq with
      tail := emission.tail % 2 ^ 32
      published := crq.published ++ [emission.response] } origin [] := by
  obtain ⟨begun, published, deep, slots, tail, filling⟩ := tidy
  cases filling with
  | open_ complete count written emission shape order owners left response next last =>
  have nonzero : crq.depth ≠ 0 := by
    rcases deep with empty | nonzero
    · simp [shape] at empty
    · exact nonzero
  have inside : emission.tail < 2 ^ 32 := by
    rw [last]
    exact (Nat.mod_lt _ (Nat.pos_of_ne_zero nonzero)).trans small
  have everything : crq.counts.length ≤ crq.published.length + 1 := by simp [shape, order]
  refine ⟨begun, ?_, deep, slots, ?_, ?_⟩
  · rw [List.length_append, List.length_singleton, List.range_succ, ← published, order, response]
  · rw [Nat.mod_eq_of_lt inside, last, Nat.mod_mod, List.length_append, List.length_singleton,
      List.take_of_length_le everything]
  · refine .settled ?_ ?_
    · simp [shape, order]
    · have full : count = written := by simpa [whole] using left
      rw [owners, shape, groups_append_single, full, Nat.zero_add]

/-- A response whose descriptor could not be written is given up. -/
theorem Tidy.abandon (tidy : crq.Tidy origin [emission]) : crq.Tidy origin [] := by
  obtain ⟨begun, published, deep, slots, tail, filling⟩ := tidy
  cases filling with
  | open_ complete count written emission shape order owners left response next last =>
  exact ⟨begun, published, deep, slots, tail,
    .abandoned complete count written shape order owners (by omega)⟩

end Crq

/-! ## Steps -/

/-- Nothing happened to the response ring. -/
structure Aside (state after : State) : Prop where
  crq : after.crq = state.crq
  flying : after.flying = state.flying

/-- The responses are in order. -/
def State.Orderly (state : State) : Prop := ∃ origin, state.crq.Tidy origin state.flying

theorem State.Orderly.aside (orderly : state.Orderly) (aside : Aside state after) :
    after.Orderly := by
  obtain ⟨origin, tidy⟩ := orderly
  refine ⟨origin, ?_⟩
  rwa [aside.crq, aside.flying]

/-- An observation of something else. -/
def Observation.aside (observation : Observation) : Bool :=
  observation.count.isNone && observation.block.isNone && observation.publication.isNone

theorem Aside.emit {observations : List Observation}
    (others : ∀ observation ∈ observations, observation.aside = true) :
    Aside state (state.emit observations) := by
  have split : ∀ observation ∈ observations, observation.count = none ∧
      observation.block = none ∧ observation.publication = none := by
    intro observation membership
    simpa [Observation.aside, and_assoc] using others observation membership
  have counts : countsOf (state.trace ++ observations) = countsOf state.trace := by
    rw [countsOf, List.filterMap_append,
      List.filterMap_eq_nil_iff.mpr fun observation membership => (split observation membership).1,
      List.append_nil, countsOf]
  have blocks : blocksOf (state.trace ++ observations) = blocksOf state.trace := by
    rw [blocksOf, List.filterMap_append,
      List.filterMap_eq_nil_iff.mpr fun observation membership =>
        (split observation membership).2.1,
      List.append_nil, blocksOf]
  have published : publishedOf (state.trace ++ observations) = publishedOf state.trace := by
    rw [publishedOf, List.filterMap_append,
      List.filterMap_eq_nil_iff.mpr fun observation membership =>
        (split observation membership).2.2,
      List.append_nil, publishedOf]
  refine ⟨?_, rfl⟩
  unfold State.crq
  simp only [State.emit_trace, counts, blocks, published]
  rfl

theorem Aside.call {callback : Callback} (aside : Aside state after)
    (other : callback.emission = none) : Aside state (after.call callback) where
  crq := aside.crq
  flying := by
    rw [← aside.flying]
    unfold State.flying
    simp [other]

theorem Aside.change (state : State) (device : Device) : Aside state (state.change device) := by
  have same : Aside state { state with device := device } := ⟨rfl, rfl⟩
  unfold State.change
  refine ⟨(Aside.crq (Aside.emit ?_)).trans same.crq, same.flying⟩
  split
  · simp
  · simp [Observation.aside, Observation.count, Observation.block, Observation.publication]

theorem Aside.trans {middle : State} (first : Aside state middle) (second : Aside middle after) :
    Aside state after :=
  ⟨second.crq.trans first.crq, second.flying.trans first.flying⟩

theorem Observation.aside_of_ring {observation : Observation} (ring : observation.ring = true) :
    observation.aside = true := by
  cases observation <;>
    simp_all [Observation.ring, Observation.aside, Observation.count, Observation.block,
      Observation.publication]

theorem Callback.emission_of_early {callback : Callback} (early : callback.early = true) :
    callback.emission = none := by
  cases callback <;> simp_all [Callback.early, Callback.emission]

theorem Callback.emission_of_ubios {callback : Callback} (own : callback.ubios = true) :
    callback.emission = none := by
  cases callback <;> simp_all [Callback.ubios, Callback.emission]

/-- Commands leave the response ring alone until they are written back. -/
theorem Outcome.aside (outcome : Outcome state after) : Aside state after := by
  cases outcome with
  | released => exact ⟨rfl, rfl⟩
  | deferred job => exact ⟨rfl, rfl⟩
  | waits observations callback silent early =>
      refine Aside.call (Aside.emit ?_) (Callback.emission_of_early early)
      intro observation membership
      exact Observation.aside_of_ring (silent observation membership)
  | crashed device zero =>
      have changed := Aside.change state device
      exact ⟨changed.crq, changed.flying⟩
  | writesBack device address bytes writeBack =>
      have written : Aside (state.change device)
          ((state.change device).emit [.csqDma address bytes]) :=
        Aside.emit fun observation membership =>
          Observation.aside_of_ring (by simp_all [Observation.ring])
      exact ((Aside.change state device).trans written).call rfl

theorem Message.aside (message : Message state after) : Aside state after := by
  cases message with
  | released words requests same => exact ⟨rfl, rfl⟩
  | waits words requests callback same own =>
      have stored : Aside state { state with ubios := words, ubiosRequests := requests } :=
        ⟨rfl, rfl⟩
      exact stored.call (Callback.emission_of_ubios own)
  | crashed requests zero => exact ⟨rfl, rfl⟩

theorem Aside.withdraw {index : Nat} {callback : Callback}
    (found : state.outstanding[index]? = some callback) (other : callback.emission = none) :
    Aside state (state.withdraw index) :=
  ⟨rfl, filterMap_eraseIdx_none found other⟩

/-- The write-back stores Head and Tail of the command ring only. -/
theorem issueRecord_aside (state : State) (writeBack : WriteBack) :
    Aside state (issueRecord state writeBack) := by
  unfold issueRecord
  split
  · refine ⟨?_, rfl⟩
    unfold State.crq State.crqDepth State.crqTail
    simp only [State.push_ubase, State.push_trace, State.push_responses]
    rw [Words.store_other _ _ (by decide), Words.store_other _ _ (by decide),
      Words.store_other _ _ (by decide), Words.store_other _ _ (by decide)]
  next address bytes _ _ =>
    have written : Aside state (state.emit [.csqDma address bytes]) :=
      Aside.emit fun observation membership =>
        Observation.aside_of_ring (by simp_all [Observation.ring])
    exact written.call rfl

/-! ## Responses -/

theorem issueBlock_written (state : State) {emission : Emission} {block : Block}
    {rest : List Block} (more : emission.blocks = block :: rest) :
    (issueBlock state emission).crq =
        { state.crq with blocks := state.crq.blocks ++ [(emission.response, block.slot)] } ∧
      (issueBlock state emission).flying =
        state.flying ++ [{ emission with blocks := rest }] := by
  unfold issueBlock
  rw [more]
  constructor
  · unfold State.crq
    simp only [State.call_trace, State.emit_trace, countsOf, blocksOf, publishedOf,
      List.filterMap_append]
    simp [Observation.count, Observation.block, Observation.publication]
    exact ⟨rfl, rfl⟩
  · unfold State.flying
    simp [Callback.emission]

theorem issueBlock_published (state : State) {emission : Emission} (whole : emission.blocks = []) :
    (issueBlock state emission).crq =
        { state.crq with
          tail := emission.tail % 2 ^ 32
          published := state.crq.published ++ [emission.response] } ∧
      (issueBlock state emission).flying = state.flying := by
  unfold issueBlock
  rw [whole]
  constructor
  · unfold State.crq State.crqDepth State.crqTail
    simp only [State.call_ubase, State.emit_ubase, State.call_trace, State.emit_trace, countsOf,
      blocksOf, publishedOf, List.filterMap_append, Words.store_same]
    rw [Words.store_other _ _ (by decide)]
    simp [Observation.count, Observation.block, Observation.publication]
  · unfold State.flying
    simp [Callback.emission]

/-- One piece of a response. -/
theorem issueBlock_orderly {origin : Nat} {emission : Emission}
    (tidy : state.crq.Tidy origin [emission]) (none : state.flying = []) :
    (issueBlock state emission).Orderly := by
  refine ⟨origin, ?_⟩
  cases shape : emission.blocks with
  | nil =>
      obtain ⟨crq, flying⟩ := issueBlock_published state shape
      rw [crq, flying, none]
      exact tidy.publish (crqDepth_lt state) shape
  | cons block rest =>
      obtain ⟨crq, flying⟩ := issueBlock_written state shape
      rw [crq, flying, none]
      exact tidy.write shape

/-- The step begins a response. -/
def State.begins (state : State) : Event → Bool
  | .run =>
      match state.stack with
      | .emitCtrlqResponse _ :: _ => true
      | _ => false
  | _ => false

/-- The guest writes to the base, the depth or Tail of the response ring. -/
def Event.setsUpCrq : Event → Bool
  | .writeUbase offset length _ => 0x18 < offset + length && offset < 0x28
  | _ => false

/-- A response begins only after Tail was stored for all responses before it, and the guest
sets up the ring before the first response. -/
def InTurn (before : State) (event : Event) (_after : State) : Prop :=
  (before.begins event = true → (publishedOf before.trace).length = before.responses) ∧
    (event.setsUpCrq = true → before.responses = 0)

instance (before : State) (event : Event) (after : State) :
    Decidable (InTurn before event after) := inferInstanceAs (Decidable (_ ∧ _))

theorem emitCtrlqResponse_orderly (event : Bytes) (orderly : state.Orderly)
    (complete : (publishedOf state.trace).length = state.responses) :
    (emitCtrlqResponse state event).Orderly := by
  obtain ⟨origin, tidy⟩ := orderly
  unfold emitCtrlqResponse
  split
  next => exact ⟨origin, tidy⟩
  next ready =>
    have nonzero : state.crqDepth ≠ 0 := fun zero => ready (.inr zero)
    have inside : state.crqTail % state.crqDepth < state.crqDepth :=
      Nat.mod_lt _ (Nat.pos_of_ne_zero nonzero)
    have slots := responseBlocks_slots state.crqBase (responseCount event) (crqDepth_lt state)
      (responseCount event) inside event
    have counted : (responseBlocks state.crqBase state.crqDepth (responseCount event)
        (responseCount event) (state.crqTail % state.crqDepth) event).length =
        responseCount event := by
      have length := congrArg List.length slots
      rwa [List.length_map, ringSlots_length] at length
    have begun := tidy.begin complete nonzero (responseCount event) _ counted slots
    simp only
    rw [responseTail (crqDepth_lt state) _ inside]
    have same : State.crq ({ state with responses := state.responses + 1 }.emit
        [.responding state.responses (responseCount event)]) =
        { state.crq with
          begun := state.crq.begun + 1
          counts := state.crq.counts ++ [responseCount event] } := by
      unfold State.crq
      simp only [State.emit_trace, countsOf, blocksOf, publishedOf, List.filterMap_append]
      simp [Observation.count, Observation.block, Observation.publication]
      exact ⟨rfl, rfl⟩
    rw [← same] at begun
    exact issueBlock_orderly begun (tidy.settled complete).2

/-- The response whose descriptor was written is the only one. -/
theorem State.Orderly.only (orderly : state.Orderly) {index : Nat} {emission : Emission}
    (found : state.outstanding[index]? = some (.blockWritten emission)) :
    ∃ origin, state.crq.Tidy origin [emission] ∧ (state.withdraw index).flying = [] := by
  obtain ⟨origin, tidy⟩ := orderly
  obtain ⟨earlier, later, shape, left⟩ := filterMap_eraseIdx_some found
    (show Callback.emission (.blockWritten emission) = some emission from rfl)
  change state.flying = _ at shape
  have filling := tidy.filling
  have single : earlier = [] ∧ later = [] := by
    rw [shape] at filling
    have short : (earlier ++ emission :: later).length ≤ 1 := by
      generalize earlier ++ emission :: later = emissions at filling
      cases filling <;> simp
    simp only [List.length_append, List.length_cons] at short
    exact ⟨List.length_eq_zero_iff.mp (by omega), List.length_eq_zero_iff.mp (by omega)⟩
  obtain ⟨rfl, rfl⟩ := single
  refine ⟨origin, ?_, left⟩
  rwa [shape] at tidy

theorem Stepped.orderly (stepped : Stepped config before event after) (orderly : before.Orderly)
    (inTurn : InTurn before event after) : after.Orderly := by
  cases stepped with
  | returned rest top => exact orderly.aside ⟨rfl, rfl⟩
  | responding event rest top =>
      have popped : (before.withStack rest).Orderly := orderly.aside ⟨rfl, rfl⟩
      refine emitCtrlqResponse_orderly event popped ?_
      exact inTurn.1 (by simp [State.begins, top])
  | notifying sequence rest top =>
      have noted : Aside (before.withStack rest)
          ((before.withStack rest).emit [.mailboxEvent sequence]) :=
        Aside.emit (by simp [Observation.aside, Observation.count, Observation.block,
          Observation.publication])
      exact orderly.aside ⟨noted.crq, noted.flying⟩
  | next rest top outcome =>
      have popped : (before.withStack rest).Orderly := orderly.aside ⟨rfl, rfl⟩
      exact popped.aside outcome.aside
  | command index ok bytes callback found early outcome =>
      exact orderly.aside
        ((Aside.withdraw found (Callback.emission_of_early early)).trans outcome.aside)
  | recordWritten index bytes writeBack found =>
      exact orderly.aside ((Aside.withdraw found rfl).trans (issueRecord_aside _ writeBack))
  | recordFailed index bytes writeBack found =>
      have left := Aside.withdraw found rfl
      exact orderly.aside ⟨left.crq, left.flying⟩
  | blockWritten index bytes emission found =>
      obtain ⟨origin, tidy, none⟩ := orderly.only found
      exact issueBlock_orderly tidy none
  | blockFailed index bytes emission found =>
      obtain ⟨origin, tidy, none⟩ := orderly.only found
      refine ⟨origin, ?_⟩
      rw [none]
      exact tidy.abandon
  | interruptRaised index ok bytes found => exact orderly.aside (Aside.withdraw found rfl)
  | message index ok bytes callback found own message =>
      exact orderly.aside
        ((Aside.withdraw found (Callback.emission_of_ubios own)).trans message.aside)
  | writtenUbase offset length value target words same =>
      by_cases touched : 0x18 < offset + length ∧ offset < 0x28
      · -- The ring is set up anew.
        obtain ⟨origin, tidy⟩ := orderly
        have none : before.crq.begun = 0 := inTurn.2 (by simpa [Event.setsUpCrq] using touched)
        obtain ⟨counts, blocks, published, idle⟩ := tidy.none_begun none
        refine ⟨words 9, ?_⟩
        change Crq.Tidy _ _ before.flying
        rw [idle]
        exact Crq.Tidy.fresh none counts blocks published
      · have depth : words 8 = before.ubase 8 := by
          rw [same 8 (by decide)]
          exact Words.write_other _ _ (by omega)
        have tail : words 9 = before.ubase 9 := by
          rw [same 9 (by decide)]
          exact Words.write_other _ _ (by omega)
        refine orderly.aside ⟨?_, rfl⟩
        unfold State.crq State.crqDepth State.crqTail State.withUbase
        simp only [depth, tail]
  | kickedUbase value idle =>
      have depth : before.ubase.write 0x10 4 value 8 = before.ubase 8 :=
        Words.write_other _ _ (by omega)
      have tail : before.ubase.write 0x10 4 value 9 = before.ubase 9 :=
        Words.write_other _ _ (by omega)
      refine orderly.aside (Aside.trans ?_ (processNextUbase_outcome _).aside)
      refine ⟨?_, rfl⟩
      unfold State.crq State.crqDepth State.crqTail State.withUbase
      simp only [depth, tail]
  | writtenUbios offset length value target words => exact orderly.aside ⟨rfl, rfl⟩
  | kickedUbios value idle =>
      refine orderly.aside (Aside.trans ?_ (processNextUbios_message { before.withUbios
        (before.ubios.write 0x08 4 value) (value % 2 ^ 32) with ubiosBusy := true } _ rfl).aside)
      exact ⟨rfl, rfl⟩
  | idle none => exact orderly
  | drained job found outcome =>
      have freed : ({ before with pendingDestroy := none } : State).Orderly :=
        orderly.aside ⟨rfl, rfl⟩
      exact freed.aside outcome.aside
  | elsewhere event busy linkUp pendingRma device => exact orderly.aside ⟨rfl, rfl⟩

theorem orderly_of_reaches
    (reached : Reaches (step config) InTurn (.initial config) state) : state.Orderly := by
  refine reached.invariant ?_ ?_
  · exact ⟨_, Crq.Tidy.fresh rfl rfl rfl rfl⟩
  · intro before event after orderly taken inTurn
    exact (step_stepped taken).2.orderly orderly inTurn

theorem Filling.prefixed {depth origin published : Nat} {counts : List Nat}
    {blocks : List (Nat × Nat)} {emissions : List Emission}
    (filling : Filling depth origin counts blocks published emissions) :
    blocks.map Prod.fst <+: groups 0 counts := by
  have begun : ∀ complete count written, counts = complete ++ [count] →
      blocks.map Prod.fst = groups 0 complete ++ List.replicate written complete.length →
      written ≤ count → blocks.map Prod.fst <+: groups 0 counts := by
    intro complete count written shape owners less
    rw [owners, shape, groups_append_single, Nat.zero_add]
    refine (List.prefix_append_right_inj _).mpr
      ⟨List.replicate (count - written) complete.length, ?_⟩
    rw [List.replicate_append_replicate, Nat.add_sub_cancel' less]
  cases filling with
  | settled _ owners => exact owners ▸ List.prefix_rfl
  | abandoned complete count written shape _ owners less =>
      exact begun complete count written shape owners less
  | open_ complete count written emission shape _ owners left =>
      exact begun complete count written shape owners (by omega)

/-- The descriptors of the responses fill consecutive slots, response by response, so that
those of one lap are in different slots, and Tail is behind the responses for which it was
stored. -/
theorem responses_consecutive
    (reached : Reaches (step config) InTurn (.initial config) state) :
    ∃ origin,
      (blocksOf state.trace).map Prod.snd =
        ringSlots state.crqDepth origin (blocksOf state.trace).length ∧
      (blocksOf state.trace).map Prod.fst <+: groups 0 (countsOf state.trace) ∧
      (∀ start, ((((blocksOf state.trace).map Prod.snd).drop start).take state.crqDepth).Nodup) ∧
      publishedOf state.trace = List.range (publishedOf state.trace).length ∧
      state.crqTail % state.crqDepth =
        (origin + ((countsOf state.trace).take (publishedOf state.trace).length).sum) %
          state.crqDepth ∧
      ((publishedOf state.trace).length = (countsOf state.trace).length →
        (blocksOf state.trace).map Prod.fst = groups 0 (countsOf state.trace)) := by
  obtain ⟨origin, tidy⟩ := orderly_of_reaches reached
  refine ⟨origin, tidy.slots, tidy.filling.prefixed, ?_, tidy.published, tidy.tail, ?_⟩
  · intro start
    rw [show (blocksOf state.trace).map Prod.snd = _ from tidy.slots]
    exact ringSlots_window_nodup _ _ _ _
  · intro complete
    exact (tidy.settled (complete.trans tidy.begun.symm)).1

/-! ## Two queries -/

/-- The descriptors of a query whose first callback is at `index`, up to its response. -/
def queryAnswered (index : Nat) : List Event :=
  [.fire index true queryVl, .run, .fire index true (List.replicate 32 0), .run,
    .fire index true [], .run, .run]

/-- A doorbell for two queries, and the first of them. -/
def firstQuery : List Event :=
  ringsUp ++ [.writeUbase 0x10 4 4, .run] ++ queryAnswered 0 ++ [.run, .run]

/-- The first response is complete before the second query is answered. -/
def queriesInTurn : List Event :=
  firstQuery ++ [.fire 0 true [], .run, .fire 1 true [], .run, .fire 1 true []] ++
    queryAnswered 0 ++ [.run, .fire 0 true [], .run, .fire 0 true []]

theorem responses_consecutive_for_two_queries :
    ∃ state, Reaches (step .small) InTurn (.initial .small) state ∧
      blocksOf state.trace = [(0, 0), (0, 1), (1, 2), (1, 3)] ∧ state.crqTail = 4 ∧
      ∃ origin, (blocksOf state.trace).map Prod.snd = ringSlots 8 origin 4 := by
  obtain ⟨state, reached, seen⟩ := exists_of_execute
    (show (execute (step .small) InTurn queriesInTurn (.initial .small)).map
        (fun state => (blocksOf state.trace, state.crqTail, state.crqDepth)) =
      some ([(0, 0), (0, 1), (1, 2), (1, 3)], 4, 8) by decide +kernel)
  obtain ⟨blocks, rest⟩ := Prod.mk.inj seen
  obtain ⟨tail, depth⟩ := Prod.mk.inj rest
  obtain ⟨origin, slots, _⟩ := responses_consecutive reached
  refine ⟨state, reached, blocks, tail, origin, ?_⟩
  rw [slots, depth, blocks]
  rfl

/-- The second response begins while the first one is being written. -/
def queriesAtOnce : List Event :=
  firstQuery ++ queryAnswered 1 ++
    [.run, .fire 0 true [], .run, .fire 0 true [], .run, .fire 0 true [], .run, .fire 0 true [],
      .run, .fire 0 true [], .fire 0 true []]

/-- Both responses are written to the same slots, and Tail advances by two descriptors
though four were written. -/
theorem responses_collide :
    ∃ state, Reaches (step .small) always (.initial .small) state ∧ state.outstanding = [] ∧
      blocksOf state.trace = [(0, 0), (1, 0), (0, 1), (1, 1)] ∧
      countsOf state.trace = [2, 2] ∧ publishedOf state.trace = [0, 1] ∧
      state.crqTail = 2 ∧ state.crqDepth = 8 ∧
      ¬ ∃ origin, (blocksOf state.trace).map Prod.snd = ringSlots 8 origin 4 := by
  obtain ⟨state, reached, seen⟩ := exists_of_execute
    (show (execute (step .small) always queriesAtOnce (.initial .small)).map
        (fun state => (state.outstanding, blocksOf state.trace, countsOf state.trace,
          publishedOf state.trace, state.crqTail, state.crqDepth)) =
      some ([], [(0, 0), (1, 0), (0, 1), (1, 1)], [2, 2], [0, 1], 2, 8) by decide +kernel)
  simp only [Prod.mk.injEq] at seen
  obtain ⟨none, blocks, counts, published, tail, depth⟩ := seen
  refine ⟨state, reached, none, blocks, counts, published, tail, depth, ?_⟩
  rintro ⟨origin, slots⟩
  rw [blocks] at slots
  have distinct := ringSlots_window_nodup 8 origin 4 0
  rw [← slots] at distinct
  exact absurd distinct (by decide)

end Udma.Control
