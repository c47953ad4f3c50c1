import Udma.Ummu.Machine
import Udma.Transition.Run

/-!
# What a step of the translation machine does

Each step is one of five moves.  From them follows the bookkeeping of calls: a
serial number names one call, only calls of existing tokens walk the tables, and
an entry of the IOTLB holds the page that the call which stored it yielded.
-/

namespace Udma.Ummu

open Transition (Reaches always)

namespace State

variable {state : State} {config : Config} {serial : Nat} {request : Request}

/-- The state in which a call starts. -/
def called (state : State) (request : Request) : State :=
  { state with calls := state.calls + 1 }.observe (.called state.calls request)

/-- The state in which the callback of a table read goes on. -/
def resumed (state : State) (serial : Nat) : State :=
  { state with walks := state.walks.filter (·.serial != serial) }.observe (.tableRead serial)

theorem mem_fill {entry other : Entry} (membership : other ∈ (state.fill config entry).iotlb) :
    other = entry ∨ other ∈ state.iotlb := by
  unfold fill at membership
  rcases List.mem_cons.mp membership with same | kept
  · exact .inl same
  · right
    have old := (List.mem_filter.mp kept).1
    split at old
    · cases old
    · exact old

theorem mem_conclude {ok : Bool} {physical : Nat} {entry : Entry}
    (membership : entry ∈ (state.conclude config serial request ok physical).iotlb) :
    (ok = true ∧ config.iotlbEntries ≠ 0 ∧
      entry = ⟨request.cacheKey, (physical >>> 12) <<< 12, serial⟩) ∨ entry ∈ state.iotlb := by
  unfold conclude observe at membership
  by_cases stores : ok = true ∧ config.iotlbEntries ≠ 0
  · rw [if_pos stores] at membership
    rcases mem_fill membership with same | old
    · exact .inl ⟨stores.1, stores.2, same⟩
    · exact .inr old
  · rw [if_neg stores] at membership
    exact .inr membership

@[simp]
theorem conclude_walks (ok : Bool) (physical : Nat) :
    (state.conclude config serial request ok physical).walks = state.walks := by
  unfold conclude
  split <;> rfl

@[simp]
theorem conclude_calls (ok : Bool) (physical : Nat) :
    (state.conclude config serial request ok physical).calls = state.calls := by
  unfold conclude
  split <;> rfl

@[simp]
theorem conclude_trace (ok : Bool) (physical : Nat) :
    (state.conclude config serial request ok physical).trace =
      state.trace ++ [.yielded serial serial ok physical] := by
  unfold conclude
  split <;> rfl

/-- A command queue only touches the registers and the fetches. -/
theorem processUmmuCommandQueue_frame (state : State) (queue : Nat) :
    (state.processUmmuCommandQueue queue).iotlb = state.iotlb ∧
      (state.processUmmuCommandQueue queue).walks = state.walks ∧
      (state.processUmmuCommandQueue queue).calls = state.calls ∧
      (state.processUmmuCommandQueue queue).trace = state.trace := by
  unfold processUmmuCommandQueue
  split
  · exact ⟨rfl, rfl, rfl, rfl⟩
  · dsimp only
    split
    · exact ⟨rfl, rfl, rfl, rfl⟩
    · split <;> exact ⟨rfl, rfl, rfl, rfl⟩

theorem writeUmmu_frame (state : State) (reg length value : Nat) :
    (state.writeUmmu reg length value).iotlb = [] ∧
      (state.writeUmmu reg length value).walks = state.walks ∧
      (state.writeUmmu reg length value).calls = state.calls ∧
      (state.writeUmmu reg length value).trace = state.trace ++ [.written] := by
  unfold writeUmmu
  dsimp only
  split
  next =>
    obtain ⟨iotlb, walks, calls, trace⟩ := processUmmuCommandQueue_frame
      ({ state with iotlb := [] }.setRegisters (state.writtenRegisters reg length value))
      (reg - (reg - ummuCommandQueueOffset) % ummuCommandQueueStride)
    exact ⟨iotlb, walks, calls, congrArg (· ++ [Observation.written]) trace⟩
  next => exact ⟨rfl, rfl, rfl, rfl⟩

theorem commandFetched_frame (state : State) (fetch : CommandFetch) (delivery : Delivery) :
    (state.commandFetched fetch delivery).iotlb = state.iotlb ∧
      (state.commandFetched fetch delivery).walks = state.walks ∧
      (state.commandFetched fetch delivery).calls = state.calls ∧
      (state.commandFetched fetch delivery).trace = state.trace := by
  unfold commandFetched
  dsimp only
  split
  · exact ⟨rfl, rfl, rfl, rfl⟩
  · exact processUmmuCommandQueue_frame _ _

end State

/-! ## Moves -/

/-- What the steps of an event can do. -/
inductive Moved (config : Config) (before : State) : Event → State → Prop where
  | hit {request : Request} {entry : Entry}
      (found : before.lookup request.cacheKey = some entry) :
      Moved config before (.translate request)
        ((before.called request).observe
          (.yielded before.calls entry.walk true (entry.value ||| (request.address &&& 0xfff))))
  | missed {request : Request} (absent : before.lookup request.cacheKey = none) :
      Moved config before (.translate request)
        ((before.called request).advance config before.calls request
          (walkTables before.registers.tect request))
  | resumed {walk : Walk} {delivery : Delivery}
      (found : before.walks.find? (·.serial == walk.serial) = some walk) :
      Moved config before (.tableRead walk.serial delivery)
        ((before.resumed walk.serial).advance config walk.serial walk.request
          (walk.resume delivery))
  | wrote {offset length value : Nat} {after : State} (iotlb : after.iotlb = [])
      (walks : after.walks = before.walks) (calls : after.calls = before.calls)
      (trace : after.trace = before.trace ++ [.written]) :
      Moved config before (.writeMmio offset length value) after
  | fetched {queue : Nat} {delivery : Delivery} {after : State}
      (iotlb : after.iotlb = before.iotlb) (walks : after.walks = before.walks)
      (calls : after.calls = before.calls) (trace : after.trace = before.trace) :
      Moved config before (.commandFetched queue delivery) after

theorem step_moved {config : Config} {before after : State} {event : Event}
    (taken : step config before event = some after) : Moved config before event after := by
  cases event with
  | translate request =>
      obtain rfl : before.translateToken config request = after := by
        simpa only [step, Option.some.injEq] using taken
      unfold State.translateToken
      cases found : before.lookup request.cacheKey with
      | some entry => exact .hit found
      | none => exact .missed found
  | tableRead serial delivery =>
      obtain ⟨walk, found, rfl⟩ := Option.map_eq_some_iff.mp taken
      have named : walk.serial = serial := by simpa using List.find?_some found
      subst named
      exact .resumed found
  | writeMmio offset length value =>
      simp only [step] at taken
      split at taken
      · obtain rfl := Option.some.inj taken
        obtain ⟨iotlb, walks, calls, trace⟩ :=
          before.writeUmmu_frame (offset - ummuOffset) length value
        exact .wrote iotlb walks calls trace
      · cases taken
  | commandFetched queue delivery =>
      obtain ⟨fetch, _, rfl⟩ := Option.map_eq_some_iff.mp taken
      obtain ⟨iotlb, walks, calls, trace⟩ := before.commandFetched_frame fetch delivery
      exact .fetched iotlb walks calls trace

/-! ## Walks -/

/-- Only a token with a context walks the tables. -/
theorem token_lt_of_walkTables {tect : Nat} {request : Request} {read : DmaRead}
    {resume : Delivery → TableScript} (asks : walkTables tect request = .ask read resume) :
    request.token < entries := by
  by_contra beyond
  unfold walkTables at asks
  rw [if_pos (Nat.le_of_not_lt beyond)] at asks
  cases asks

/-- No walk succeeds without a table read. -/
theorem walkTables_ne_done (tect : Nat) (request : Request) (physical : Nat) :
    walkTables tect request ≠ .done (true, physical) := by
  unfold walkTables
  intro same
  split at same
  · cases same
  · split at same <;> cases same

theorem walkTables_beyond {tect : Nat} {request : Request} (beyond : entries ≤ request.token) :
    walkTables tect request = .done (false, 0) := by
  unfold walkTables
  rw [if_pos beyond]
  rfl

/-! ## Calls -/

/-- The entry was stored by a call for `request`. -/
structure State.Stored (state : State) (entry : Entry) (request : Request) : Prop where
  called : .called entry.walk request ∈ state.trace
  key : request.cacheKey = entry.key
  small : request.token < entries
  yielded : ∃ physical, .yielded entry.walk entry.walk true physical ∈ state.trace ∧
    entry.value = (physical >>> 12) <<< 12

/-- The bookkeeping of calls. -/
structure State.Booked (state : State) : Prop where
  walk_lt : ∀ walk ∈ state.walks, walk.serial < state.calls
  called_lt : ∀ serial request, .called serial request ∈ state.trace → serial < state.calls
  read_lt : ∀ serial, .tableRead serial ∈ state.trace → serial < state.calls
  yielded_lt : ∀ serial source ok physical,
    .yielded serial source ok physical ∈ state.trace → serial < state.calls
  called_once : ∀ serial first second, .called serial first ∈ state.trace →
    .called serial second ∈ state.trace → first = second
  walk_called : ∀ walk ∈ state.walks,
    .called walk.serial walk.request ∈ state.trace ∧ walk.request.token < entries
  stored : ∀ entry ∈ state.iotlb, ∃ request, state.Stored entry request

namespace State

variable {before after : State} {config : Config} {request : Request} {serial : Nat}

theorem Stored.mono {entry : Entry} (old : before.Stored entry request)
    (grown : ∀ observation ∈ before.trace, observation ∈ after.trace) :
    after.Stored entry request := by
  obtain ⟨physical, yielded, value⟩ := old.yielded
  exact ⟨grown _ old.called, old.key, old.small, physical, grown _ yielded, value⟩

theorem booked_configured (registers : Registers) : (configured registers).Booked where
  walk_lt := by simp [configured]
  called_lt := by simp [configured]
  read_lt := by simp [configured]
  yielded_lt := by simp [configured]
  called_once := by simp [configured]
  walk_called := by simp [configured]
  stored := by simp [configured]

theorem Booked.called (booked : before.Booked) (request : Request) :
    (before.called request).Booked where
  walk_lt walk membership := Nat.lt_succ_of_lt (booked.walk_lt walk membership)
  called_lt := by
    intro serial other membership
    rcases List.mem_append.mp membership with old | new
    · exact Nat.lt_succ_of_lt (booked.called_lt _ _ old)
    · simp only [List.mem_singleton, Observation.called.injEq] at new
      exact new.1 ▸ Nat.lt_succ_self _
  read_lt := by
    intro serial membership
    rcases List.mem_append.mp membership with old | new
    · exact Nat.lt_succ_of_lt (booked.read_lt _ old)
    · simp at new
  yielded_lt := by
    intro serial source ok physical membership
    rcases List.mem_append.mp membership with old | new
    · exact Nat.lt_succ_of_lt (booked.yielded_lt _ _ _ _ old)
    · simp at new
  called_once := by
    intro serial first second left right
    rcases List.mem_append.mp left with oldLeft | newLeft <;>
      rcases List.mem_append.mp right with oldRight | newRight
    · exact booked.called_once serial first second oldLeft oldRight
    · simp only [List.mem_singleton, Observation.called.injEq] at newRight
      exact absurd (booked.called_lt _ _ oldLeft) (newRight.1 ▸ Nat.lt_irrefl _)
    · simp only [List.mem_singleton, Observation.called.injEq] at newLeft
      exact absurd (booked.called_lt _ _ oldRight) (newLeft.1 ▸ Nat.lt_irrefl _)
    · simp only [List.mem_singleton, Observation.called.injEq] at newLeft newRight
      exact newLeft.2.trans newRight.2.symm
  walk_called walk membership :=
    ⟨List.mem_append_left _ (booked.walk_called walk membership).1,
      (booked.walk_called walk membership).2⟩
  stored entry membership := by
    obtain ⟨other, old⟩ := booked.stored entry membership
    exact ⟨other, old.mono fun _ => List.mem_append_left _⟩

/-- Observing no new call, and of the known ones a table read or a result. -/
theorem Booked.observe (booked : before.Booked) (observation : Observation)
    (plain : ∀ serial request, observation ≠ .called serial request)
    (known : ∀ serial, observation = .tableRead serial → serial < before.calls)
    (named : ∀ serial source ok physical, observation = .yielded serial source ok physical →
      serial < before.calls) :
    (before.observe observation).Booked where
  walk_lt := booked.walk_lt
  called_lt := by
    intro serial other membership
    rcases List.mem_append.mp membership with old | new
    · exact booked.called_lt _ _ old
    · exact absurd (List.mem_singleton.mp new).symm (plain _ _)
  read_lt := by
    intro serial membership
    rcases List.mem_append.mp membership with old | new
    · exact booked.read_lt _ old
    · exact known serial (List.mem_singleton.mp new).symm
  yielded_lt := by
    intro serial source ok physical membership
    rcases List.mem_append.mp membership with old | new
    · exact booked.yielded_lt _ _ _ _ old
    · exact named serial source ok physical (List.mem_singleton.mp new).symm
  called_once := by
    intro serial first second left right
    rcases List.mem_append.mp left with oldLeft | new
    · rcases List.mem_append.mp right with oldRight | new
      · exact booked.called_once serial first second oldLeft oldRight
      · exact absurd (List.mem_singleton.mp new).symm (plain _ _)
    · exact absurd (List.mem_singleton.mp new).symm (plain _ _)
  walk_called walk membership :=
    ⟨List.mem_append_left _ (booked.walk_called walk membership).1,
      (booked.walk_called walk membership).2⟩
  stored entry membership := by
    obtain ⟨other, old⟩ := booked.stored entry membership
    exact ⟨other, old.mono fun _ => List.mem_append_left _⟩

/-- Fewer walks and fewer entries. -/
theorem Booked.shrink (booked : before.Booked) {walks : List Walk} {iotlb : List Entry}
    (fewer : walks ⊆ before.walks) (smaller : iotlb ⊆ before.iotlb) {registers : Registers}
    {fetches : List CommandFetch} :
    (State.mk registers fetches iotlb walks before.calls before.trace).Booked where
  walk_lt walk membership := booked.walk_lt walk (fewer membership)
  called_lt := booked.called_lt
  read_lt := booked.read_lt
  yielded_lt := booked.yielded_lt
  called_once := booked.called_once
  walk_called walk membership := booked.walk_called walk (fewer membership)
  stored entry membership := by
    obtain ⟨other, old⟩ := booked.stored entry (smaller membership)
    exact ⟨other, old.mono fun _ => id⟩

theorem Booked.resumed (booked : before.Booked) {walk : Walk} (waiting : walk ∈ before.walks) :
    (before.resumed walk.serial).Booked := by
  have fewer : before.walks.filter (·.serial != walk.serial) ⊆ before.walks :=
    fun _ membership => (List.mem_filter.mp membership).1
  have shrunk : { before with
      walks := before.walks.filter (·.serial != walk.serial) }.Booked :=
    booked.shrink fewer fun _ => id
  apply shrunk.observe
  · intro serial request same
    cases same
  · rintro serial ⟨⟩
    exact booked.walk_lt walk waiting
  · intro _ _ _ _ same
    cases same

theorem Booked.conclude (booked : before.Booked) {ok : Bool} {physical : Nat}
    (called : .called serial request ∈ before.trace)
    (small : ok = true → request.token < entries) :
    (before.conclude config serial request ok physical).Booked := by
  have observed := booked.observe (.yielded serial serial ok physical)
    (by intro _ _ same; cases same) (by intro _ same; cases same)
    (by rintro _ _ _ _ ⟨⟩; exact booked.called_lt _ _ called)
  refine ⟨?_, ?_, ?_, ?_, ?_, ?_, ?_⟩
  · simpa using booked.walk_lt
  · simpa [State.observe] using observed.called_lt
  · simpa [State.observe] using observed.read_lt
  · simpa [State.observe] using observed.yielded_lt
  · simpa [State.observe] using observed.called_once
  · simpa [State.observe] using observed.walk_called
  · intro entry membership
    rcases mem_conclude membership with ⟨rfl, _, rfl⟩ | old
    · refine ⟨request, ?_, rfl, small rfl, physical, ?_, rfl⟩
      · simpa using called
      · simp
    · obtain ⟨other, stored⟩ := booked.stored entry old
      refine ⟨other, stored.mono ?_⟩
      intro observation known
      simp [known]

theorem Booked.advance (booked : before.Booked) {script : TableScript}
    (called : .called serial request ∈ before.trace)
    (small : ∀ read resume, script = .ask read resume → request.token < entries)
    (succeeds : ∀ physical, script = .done (true, physical) → request.token < entries) :
    (before.advance config serial request script).Booked := by
  cases script with
  | done result =>
      obtain ⟨ok, physical⟩ := result
      apply booked.conclude called
      rintro rfl
      exact succeeds physical rfl
  | ask read resume =>
      refine ⟨?_, booked.called_lt, booked.read_lt, booked.yielded_lt, booked.called_once, ?_, ?_⟩
      · intro walk membership
        rcases List.mem_append.mp membership with old | new
        · exact booked.walk_lt walk old
        · obtain rfl := List.mem_singleton.mp new
          exact booked.called_lt _ _ called
      · intro walk membership
        rcases List.mem_append.mp membership with old | new
        · exact booked.walk_called walk old
        · obtain rfl := List.mem_singleton.mp new
          exact ⟨called, small read resume rfl⟩
      · intro entry membership
        obtain ⟨other, stored⟩ := booked.stored entry membership
        exact ⟨other, stored.mono fun _ => id⟩

end State

theorem Moved.booked {config : Config} {before after : State} {event : Event}
    (moved : Moved config before event after) (booked : before.Booked) : after.Booked := by
  cases moved with
  | hit found =>
      apply (booked.called _).observe
      · intro _ _ same
        cases same
      · intro _ same
        cases same
      · rintro _ _ _ _ ⟨⟩
        exact Nat.lt_succ_self _
  | @missed request absent =>
      apply (booked.called request).advance
      · exact List.mem_append_right _ (List.mem_singleton_self _)
      · intro read resume asks
        exact token_lt_of_walkTables asks
      · intro physical same
        exact absurd same (walkTables_ne_done _ _ _)
  | @resumed walk delivery found =>
      have waiting := List.mem_of_find?_eq_some found
      obtain ⟨called, small⟩ := booked.walk_called walk waiting
      apply (booked.resumed waiting).advance
      · exact List.mem_append_left _ called
      · exact fun _ _ _ => small
      · exact fun _ _ => small
  | wrote iotlb walks calls trace =>
      have cleared : State.Booked { before with iotlb := [] } :=
        booked.shrink (fun _ => id) (List.nil_subset _)
      have observed := cleared.observe .written
        (by intro _ _ same; cases same) (by intro _ same; cases same)
        (by intro _ _ _ _ same; cases same)
      obtain ⟨registers, fetches, _, _, _, _⟩ := after
      subst iotlb walks calls trace
      exact observed.shrink (fun _ => id) fun _ => id
  | fetched iotlb walks calls trace =>
      obtain ⟨registers, fetches, _, _, _, _⟩ := after
      subst iotlb walks calls trace
      exact booked.shrink (fun _ => id) fun _ => id

variable {config : Config} {guard : State → Event → State → Prop}

theorem booked_of_reaches {registers : Registers} {state : State}
    (reached : Reaches (step config) guard (.configured registers) state) : state.Booked :=
  reached.invariant (State.booked_configured registers) fun _ _ _ booked taken _ =>
    (step_moved taken).booked booked

end Udma.Ummu
