import Mathlib
import Udma.Abi
import Udma.Transition.Run

/-!
# Routing of register writes

`UdmaModel::WriteMmio` is an ordered chain of tests, one for each block of
registers, and the pages of the Jettys come behind all the fixed blocks.  The
page of a Jetty is placed by its tag when it is created, so the two meet for some
tags.

The model keeps the decision: a write goes to one block, named by a `Route` with
the register or the Jetty it reaches.  What the command queues do with their
registers is the subject of the control engine.  The register file of the
extraction test, which has no Jettys, is left out.
-/

namespace Udma.Mmio

open Udma.Abi Udma.Transition

/-! ## The register map -/

def ummuOffset : Nat := 0xf00000
def ummuBytes : Nat := 0x5000
def ubiosMessageQueueOffset : Nat := 0x12000
def ubaseCommandSourceOffset : Nat := 0x318004
def ubaseCommandQueueOffset : Nat := 0x318400
def udmaMemoryOffset : Nat := 0x200000
def officialApertureBytes : Nat := 0x1000000
def hardwarePageBytes : Nat := 4096
def doorbellOffset : Nat := 0x80

structure Config where
  maxJettys : Nat
  publicJettys : Nat
  oneShotJfcNotifications : Bool
  jettys_bounds : 2 ≤ maxJettys ∧ maxJettys ≤ 65535 ∧ 0 < publicJettys ∧ publicJettys < maxJettys

/-- The fields of a Jetty's `QueueContext` that the creation checks or places. -/
structure Jetty where
  queueIova : Nat
  devicePageOffset : Nat
  deriving DecidableEq, Repr

/-- The pages of the Jettys follow the doorbell page, one for each tag. -/
def pageOffset (tag : Nat) : Nat :=
  udmaMemoryOffset + hardwarePageBytes + tag * hardwarePageBytes

structure State where
  jettyContexts : AList (fun _ : Nat => Jetty) := ∅
  /-- `draining_queue_id_`, while a destroy command waits for its Jetty. -/
  draining : Option Nat := none

def State.initial : State := {}

/-! ## Creation and destruction -/

/-- The Jetty context of a create command, if it is acceptable; the depth that its
4-bit shift gives is never zero. -/
def decodeJetty (tag : Nat) (context : Bytes) : Option Jetty :=
  let queueIova := ((load32 context 8 <<< 20) ||| (load32 context 4 >>> 12)) <<< 12
  if queueIova = 0 then none else some ⟨queueIova, pageOffset tag⟩

/-- The create command; `reply` is what the read of the context yields.  An error is
the status that the guest gets. -/
def createJetty (config : Config) (state : State) (tag contextIova : Nat)
    (reply : Option Bytes) : Except Nat State :=
  if contextIova = 0 then .error 22
  else if (state.jettyContexts.lookup tag).isSome then .error 17
  else if config.maxJettys ≤ state.jettyContexts.entries.length then .error 28
  else
    match reply with
    | none => .error 5
    | some context =>
        if context.length ≠ 128 then .error 5
        else
          match decodeJetty tag context with
          | none => .error 22
          | some jetty =>
              .ok { state with jettyContexts := state.jettyContexts.insert tag jetty }

inductive Event where
  /-- Command `0x04`; the tag of a descriptor has 24 bits. -/
  | create (tag : Fin (2 ^ 24)) (contextIova : Nat) (reply : Option Bytes)
  /-- Command `0x07`; a busy Jetty is drained first. -/
  | destroy (tag : Fin (2 ^ 24)) (busy : Bool)
  | drained

/-- One command at a time: none is fetched while a destroy command waits. -/
def step (config : Config) (state : State) : Event → Option State
  | .create tag contextIova reply =>
      if state.draining.isSome then none
      else
        match createJetty config state tag contextIova reply with
        | .error _ => some state
        | .ok created => some created
  | .destroy tag busy =>
      if state.draining.isSome then none
      else if busy then some { state with draining := some tag.val }
      else some { state with jettyContexts := state.jettyContexts.erase tag.val }
  | .drained =>
      match state.draining with
      | none => none
      | some tag => some ⟨state.jettyContexts.erase tag, none⟩

/-! ## Routing -/

/-- The block a write goes to. -/
inductive Route where
  | refused
  | ummu (register : Nat)
  | ubiosMessageQueue (register : Nat)
  | ubaseCommandQueue (register : Nat)
  | ubaseCommandSource
  | ceqConsumer
  | jfcDoorbell
  | directWqe (id start : Nat)
  | jettyDoorbell (id : Nat)
  /-- No block takes the write. -/
  | unclaimed
  deriving DecidableEq, Repr

/-- The test `HandleJettyMmio` makes for one Jetty. -/
def jettyRoute (offset length : Nat) (entry : (_ : Nat) × Jetty) : Option (Nat × Route) :=
  let page := entry.2.devicePageOffset
  if page ≤ offset ∧ offset + length ≤ page + wqebbBytes then
    some (entry.1, .directWqe entry.1 (offset - page))
  else if offset = page + doorbellOffset ∧ length = 4 then
    some (entry.1, .jettyDoorbell entry.1)
  else none

/-- `HandleJettyMmio`: the first Jetty whose page has the offset, in the order in which
the map yields them; a Jetty that is being destroyed drops the write. -/
def handleJettyMmio (state : State) (order : List ((_ : Nat) × Jetty)) (offset length : Nat) :
    Option Route :=
  if length = 0 ∨ 8 < length then none
  else
    match order.findSome? (jettyRoute offset length) with
    | none => none
    | some (id, route) => if state.draining = some id then none else some route

/-- A block of `bytes` registers at `base` holds the whole write. -/
def Within (base bytes offset length : Nat) : Prop := base ≤ offset ∧ offset + length ≤ base + bytes

instance (base bytes offset length : Nat) : Decidable (Within base bytes offset length) :=
  inferInstanceAs (Decidable (_ ∧ _))

def writeMmio (config : Config) (state : State) (order : List ((_ : Nat) × Jetty))
    (offset length value : Nat) : Route :=
  if length = 0 ∨ 8 < length ∨ 2 ^ 64 - 1 - length < offset then .refused
  else if Within ummuOffset ummuBytes offset length then .ummu (offset - ummuOffset)
  else if Within ubiosMessageQueueOffset 0x120 offset length then
    .ubiosMessageQueue (offset - ubiosMessageQueueOffset)
  else if Within ubaseCommandQueueOffset 0x2c offset length then
    .ubaseCommandQueue (offset - ubaseCommandQueueOffset)
  else if offset = ubaseCommandSourceOffset ∧ length = 4 then .ubaseCommandSource
  else if offset = udmaMemoryOffset ∧ length = 8 ∧ (value >>> 16) &&& 3 = 2 then .ceqConsumer
  else if config.oneShotJfcNotifications ∧ offset = udmaMemoryOffset + 0x40 ∧ length = 8 then
    .jfcDoorbell
  else (handleJettyMmio state order offset length).getD .unclaimed

/-! ## The pages of the Jettys -/

/-- Every Jetty has the page of its tag. -/
def State.Placed (state : State) : Prop :=
  ∀ tag jetty, state.jettyContexts.lookup tag = some jetty →
    jetty.devicePageOffset = pageOffset tag

theorem decodeJetty_page {tag : Nat} {context : Bytes} {jetty : Jetty}
    (decoded : decodeJetty tag context = some jetty) :
    jetty.devicePageOffset = pageOffset tag := by
  unfold decodeJetty at decoded
  simp only at decoded
  split at decoded
  next => simp at decoded
  next =>
    obtain rfl := Option.some.inj decoded
    rfl

variable {config : Config} {state before after : State} {event : Event} {tag : Nat}

/-- What an accepted create command does. -/
theorem createJetty_ok {contextIova : Nat} {reply : Option Bytes}
    (created : createJetty config before tag contextIova reply = .ok after) :
    ∃ context jetty, decodeJetty tag context = some jetty ∧
      after = { before with jettyContexts := before.jettyContexts.insert tag jetty } := by
  unfold createJetty at created
  split at created
  next => simp at created
  next =>
    split at created
    next => simp at created
    next =>
      split at created
      next => simp at created
      next =>
        split at created
        next => simp at created
        next context =>
          split at created
          next => simp at created
          next =>
            split at created
            next => simp at created
            next jetty decoded => exact ⟨context, jetty, decoded, (Except.ok.inj created).symm⟩

theorem createJetty_placed {contextIova : Nat} {reply : Option Bytes} (placed : before.Placed)
    (created : createJetty config before tag contextIova reply = .ok after) : after.Placed := by
  obtain ⟨context, jetty, decoded, rfl⟩ := createJetty_ok created
  intro other found present
  by_cases same : other = tag
  · subst same
    rw [AList.lookup_insert] at present
    obtain rfl := Option.some.inj present
    exact decodeJetty_page decoded
  · rw [AList.lookup_insert_ne same] at present
    exact placed other found present

theorem State.Placed.erase (placed : state.Placed) (draining : Option Nat) (tag : Nat) :
    State.Placed ⟨state.jettyContexts.erase tag, draining⟩ := by
  intro other jetty present
  by_cases same : other = tag
  · subst same
    simp at present
  · rw [AList.lookup_erase_ne same] at present
    exact placed other jetty present

theorem State.Placed.step (placed : before.Placed)
    (taken : Mmio.step config before event = some after) : after.Placed := by
  cases event with
  | create tag contextIova reply =>
      simp only [Mmio.step] at taken
      split at taken
      next => simp at taken
      next =>
        split at taken
        next =>
          obtain rfl := Option.some.inj taken
          exact placed
        next created done =>
          obtain rfl := Option.some.inj taken
          exact createJetty_placed placed done
  | destroy tag busy =>
      simp only [Mmio.step] at taken
      split at taken
      next => simp at taken
      next =>
        split at taken
        next =>
          obtain rfl := Option.some.inj taken
          exact placed
        next =>
          obtain rfl := Option.some.inj taken
          exact placed.erase _ _
  | drained =>
      simp only [Mmio.step] at taken
      split at taken
      next => simp at taken
      next tag _ =>
        obtain rfl := Option.some.inj taken
        exact placed.erase _ _

theorem placed_of_reaches {guard : State → Event → State → Prop}
    (reached : Reaches (step config) guard .initial state) : state.Placed := by
  refine reached.invariant ?_ fun before event after placed taken _ => placed.step taken
  intro tag jetty present
  simp [State.initial] at present

/-! ## Disjoint pages -/

/-- A test that holds of no other element than those with one answer finds that answer. -/
theorem findSome?_eq_of_mem {α β : Type} {test : α → Option β} {elements : List α} {element : α}
    {answer : β} (membership : element ∈ elements) (own : test element = some answer)
    (others : ∀ other ∈ elements, ∀ found, test other = some found → found = answer) :
    elements.findSome? test = some answer := by
  cases search : elements.findSome? test with
  | none =>
      rw [List.findSome?_eq_none_iff] at search
      simp [search element membership] at own
  | some found =>
      obtain ⟨other, present, passed⟩ := List.exists_of_findSome?_eq_some search
      rw [others other present found passed]

/-- The two areas of a Jetty page that `HandleJettyMmio` answers for. -/
def JettyWrite (tag offset length : Nat) : Route → Prop
  | .directWqe id start =>
      id = tag ∧ 0 < length ∧ length ≤ 8 ∧ offset = pageOffset tag + start ∧
        start + length ≤ wqebbBytes
  | .jettyDoorbell id => id = tag ∧ length = 4 ∧ offset = pageOffset tag + doorbellOffset
  | _ => False

/-- The area of a write tells its Jetty. -/
theorem jettyRoute_own {offset length : Nat} {route : Route} {entry : (_ : Nat) × Jetty}
    {found : Nat × Route} (write : JettyWrite tag offset length route)
    (page : entry.2.devicePageOffset = pageOffset entry.1)
    (passed : jettyRoute offset length entry = some found) : found = (tag, route) := by
  unfold jettyRoute at passed
  simp only [page] at passed
  cases route with
  | directWqe id start =>
      obtain ⟨rfl, positive, _, place, inside⟩ := write
      unfold pageOffset udmaMemoryOffset hardwarePageBytes wqebbBytes doorbellOffset at *
      split at passed
      next area =>
        obtain rfl := Option.some.inj passed
        have same : entry.1 = id := by omega
        subst same
        have where_ : offset - (2097152 + 4096 + entry.1 * 4096) = start := by omega
        rw [where_]
      next =>
        split at passed
        next => omega
        next => simp at passed
  | jettyDoorbell id =>
      obtain ⟨rfl, four, place⟩ := write
      unfold pageOffset udmaMemoryOffset hardwarePageBytes wqebbBytes doorbellOffset at *
      split at passed
      next => omega
      next =>
        split at passed
        next area =>
          obtain rfl := Option.some.inj passed
          have same : entry.1 = id := by omega
          subst same
          rfl
        next => simp at passed
  | _ => exact write.elim

theorem jettyRoute_hit {offset length : Nat} {route : Route} {jetty : Jetty}
    (write : JettyWrite tag offset length route)
    (page : jetty.devicePageOffset = pageOffset tag) :
    jettyRoute offset length ⟨tag, jetty⟩ = some (tag, route) := by
  unfold jettyRoute
  simp only [page]
  cases route with
  | directWqe id start =>
      obtain ⟨rfl, _, _, rfl, inside⟩ := write
      rw [if_pos ⟨by omega, by omega⟩, Nat.add_sub_cancel_left]
  | jettyDoorbell id =>
      obtain ⟨rfl, rfl, rfl⟩ := write
      have outside : ¬ (pageOffset id ≤ pageOffset id + doorbellOffset ∧
          pageOffset id + doorbellOffset + 4 ≤ pageOffset id + wqebbBytes) := by
        unfold doorbellOffset wqebbBytes
        omega
      rw [if_neg outside, if_pos ⟨rfl, rfl⟩]
  | _ => exact write.elim

/-- Where a write to the page of a Jetty should go: the Jetty takes it, unless it is
being destroyed. -/
def State.ownRoute (state : State) (tag : Nat) (route : Route) : Route :=
  if state.draining = some tag then .unclaimed else route

theorem handleJettyMmio_own {order : List ((_ : Nat) × Jetty)} {jetty : Jetty}
    {offset length : Nat} {route : Route} (placed : state.Placed)
    (created : state.jettyContexts.lookup tag = some jetty)
    (listed : order.Perm state.jettyContexts.entries)
    (write : JettyWrite tag offset length route) (size : 0 < length ∧ length ≤ 8) :
    (handleJettyMmio state order offset length).getD .unclaimed = state.ownRoute tag route := by
  have search : order.findSome? (jettyRoute offset length) = some (tag, route) := by
    refine findSome?_eq_of_mem
      (listed.mem_iff.mpr (AList.mem_lookup_iff.mp created))
      (jettyRoute_hit write (placed tag jetty created)) ?_
    intro other membership found passed
    exact jettyRoute_own write
      (placed other.1 other.2 (AList.mem_lookup_iff.mpr (listed.mem_iff.mp membership))) passed
  unfold handleJettyMmio State.ownRoute
  rw [if_neg (by omega), search]
  simp only
  split <;> rfl

/-! ## Which tags are routed -/

/-- The tags whose pages keep clear of the command-source register and of the UMMU, and
lie inside the aperture. -/
def ClearPage (tag : Nat) : Prop := tag ≠ 279 ∧ ¬ (3327 ≤ tag ∧ tag ≤ 3331) ∧ tag < 3583

/-- Every write to the doorbell or the direct-WQE window of a Jetty reaches that Jetty,
and the page lies inside the aperture. -/
def Routed (config : Config) (state : State) (order : List ((_ : Nat) × Jetty)) (tag : Nat) :
    Prop :=
  ∀ offset length value route, JettyWrite tag offset length route →
    writeMmio config state order offset length value = state.ownRoute tag route ∧
      offset + length ≤ officialApertureBytes

theorem JettyWrite.bounds {offset length : Nat} {route : Route}
    (write : JettyWrite tag offset length route) :
    0 < length ∧ length ≤ 8 ∧ pageOffset tag ≤ offset ∧
      (offset + length ≤ pageOffset tag + 64 ∨
        offset = pageOffset tag + 128 ∧ length = 4) := by
  cases route with
  | directWqe id start =>
      obtain ⟨rfl, positive, eight, rfl, inside⟩ := write
      unfold wqebbBytes at inside
      exact ⟨positive, eight, by omega, .inl (by omega)⟩
  | jettyDoorbell id =>
      obtain ⟨rfl, rfl, rfl⟩ := write
      exact ⟨by omega, by omega, by omega, .inr ⟨rfl, rfl⟩⟩
  | _ => exact write.elim

/-- A page that keeps clear meets no fixed block. -/
theorem routed_of_clearPage {order : List ((_ : Nat) × Jetty)} {jetty : Jetty}
    (placed : state.Placed) (created : state.jettyContexts.lookup tag = some jetty)
    (listed : order.Perm state.jettyContexts.entries) (clear : ClearPage tag) :
    Routed config state order tag := by
  intro offset length value route write
  obtain ⟨positive, eight, above, area⟩ := write.bounds
  obtain ⟨apart, offUmmu, inside⟩ := clear
  have own := handleJettyMmio_own placed created listed write ⟨positive, eight⟩
  unfold pageOffset udmaMemoryOffset hardwarePageBytes at above area
  refine ⟨?_, by unfold officialApertureBytes; omega⟩
  have ummu : ¬ Within ummuOffset ummuBytes offset length := by
    unfold Within ummuOffset ummuBytes
    omega
  have ubios : ¬ Within ubiosMessageQueueOffset 0x120 offset length := by
    unfold Within ubiosMessageQueueOffset
    omega
  have ubase : ¬ Within ubaseCommandQueueOffset 0x2c offset length := by
    unfold Within ubaseCommandQueueOffset
    omega
  have source : ¬ (offset = ubaseCommandSourceOffset ∧ length = 4) := by
    unfold ubaseCommandSourceOffset
    omega
  have ceq : ¬ (offset = udmaMemoryOffset ∧ length = 8 ∧ (value >>> 16) &&& 3 = 2) := by
    unfold udmaMemoryOffset
    omega
  have jfc : ¬ (config.oneShotJfcNotifications = true ∧ offset = udmaMemoryOffset + 0x40 ∧
      length = 8) := by
    unfold udmaMemoryOffset
    omega
  unfold writeMmio
  rw [if_neg (by omega), if_neg ummu, if_neg ubios, if_neg ubase, if_neg source, if_neg ceq,
    if_neg jfc, own]

theorem ownRoute_cases (state : State) (tag : Nat) (route : Route) :
    state.ownRoute tag route = .unclaimed ∨ state.ownRoute tag route = route := by
  unfold State.ownRoute
  split
  · exact .inl rfl
  · exact .inr rfl

/-- A page that does not keep clear has a write in its direct-WQE window that goes
elsewhere, or that no register block should get. -/
theorem clearPage_of_routed {order : List ((_ : Nat) × Jetty)}
    (routed : Routed config state order tag) : ClearPage tag := by
  refine ⟨?_, ?_, ?_⟩
  · rintro rfl
    have write : JettyWrite 279 0x318004 4 (.directWqe 279 4) := by
      refine ⟨rfl, by omega, by omega, by decide, by decide⟩
    have taken := (routed 0x318004 4 0 _ write).1
    rw [show writeMmio config state order 0x318004 4 0 = .ubaseCommandSource from rfl] at taken
    rcases ownRoute_cases state 279 (.directWqe 279 4) with own | own <;> rw [own] at taken <;>
      simp at taken
  · rintro ⟨low, high⟩
    have write : JettyWrite tag (pageOffset tag) 1 (.directWqe tag 0) :=
      ⟨rfl, by omega, by omega, rfl, by decide⟩
    have taken := (routed (pageOffset tag) 1 0 _ write).1
    have inside : Within ummuOffset ummuBytes (pageOffset tag) 1 := by
      unfold Within pageOffset ummuOffset ummuBytes udmaMemoryOffset hardwarePageBytes
      omega
    have formed : ¬ (1 = 0 ∨ 8 < 1 ∨ 2 ^ 64 - 1 - 1 < pageOffset tag) := by
      unfold pageOffset udmaMemoryOffset hardwarePageBytes
      omega
    have block : writeMmio config state order (pageOffset tag) 1 0 =
        .ummu (pageOffset tag - ummuOffset) := by
      unfold writeMmio
      rw [if_neg formed, if_pos inside]
    rw [block] at taken
    rcases ownRoute_cases state tag (.directWqe tag 0) with own | own <;> rw [own] at taken <;>
      simp at taken
  · have write : JettyWrite tag (pageOffset tag) 1 (.directWqe tag 0) :=
      ⟨rfl, by omega, by omega, rfl, by decide⟩
    have inside := (routed (pageOffset tag) 1 0 _ write).2
    unfold pageOffset udmaMemoryOffset hardwarePageBytes officialApertureBytes at inside
    omega

/-- The writes of a Jetty are routed to it exactly when its tag keeps its page clear of the
fixed blocks and inside the aperture. -/
theorem jetty_routed_iff {order : List ((_ : Nat) × Jetty)} {jetty : Jetty}
    (reached : Reaches (step config) always .initial state)
    (created : state.jettyContexts.lookup tag = some jetty)
    (listed : order.Perm state.jettyContexts.entries) :
    Routed config state order tag ↔ tag ≠ 279 ∧ ¬ (3327 ≤ tag ∧ tag ≤ 3331) ∧ tag < 3583 :=
  ⟨clearPage_of_routed, routed_of_clearPage (placed_of_reaches reached) created listed⟩

/-- The device as it is shipped. -/
def Config.shipped : Config where
  maxJettys := 1152
  publicJettys := 1
  oneShotJfcNotifications := false
  jettys_bounds := by decide

/-- The context of a Jetty with its ring at `0x1000`. -/
def jettyImage : Bytes := List.replicate 4 0 ++ store32 0x1000 ++ List.replicate 120 0

/-- Jettys 5 and 279. -/
def twoJettys : List Event := [.create 5 0x1000 (some jettyImage), .create 279 0x2000 (some jettyImage)]

theorem jetty_five_routed :
    ∃ state jetty, Reaches (step .shipped) always .initial state ∧
      state.jettyContexts.lookup 5 = some jetty ∧
      Routed .shipped state state.jettyContexts.entries 5 := by
  obtain ⟨state, reached, seen⟩ := exists_of_execute
    (show (execute (step .shipped) always twoJettys .initial).map
      (fun state => state.jettyContexts.lookup 5) = some (some ⟨0x1000, 0x206000⟩) by
      decide +kernel)
  exact ⟨state, _, reached, seen,
    (jetty_routed_iff reached seen (List.Perm.refl _)).mpr (by decide)⟩

/-- The second word of the direct-WQE window of Jetty 279 is the command-source
register. -/
theorem jetty_279_write_reaches_command_source :
    ∃ state jetty, Reaches (step .shipped) always .initial state ∧
      state.jettyContexts.lookup 279 = some jetty ∧
      JettyWrite 279 0x318004 4 (.directWqe 279 4) ∧
      writeMmio .shipped state state.jettyContexts.entries 0x318004 4 1 =
        .ubaseCommandSource ∧
      ¬ Routed .shipped state state.jettyContexts.entries 279 := by
  obtain ⟨state, reached, seen⟩ := exists_of_execute
    (show (execute (step .shipped) always twoJettys .initial).map
      (fun state => state.jettyContexts.lookup 279) = some (some ⟨0x1000, 0x318000⟩) by
      decide +kernel)
  exact ⟨state, _, reached, seen, ⟨rfl, by omega, by omega, by decide, by decide⟩, rfl,
    fun routed => (clearPage_of_routed routed).1 rfl⟩

end Udma.Mmio
