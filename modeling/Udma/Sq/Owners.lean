import Udma.Sq.Ring

/-!
# Who completes an entry

Every open entry is owned by one party that will complete it: an outstanding
request, the network, a prepared WRITE or code on the stack.  No owner is left
without its entry as long as no late send failure arrives, and no open entry
without its owner as long as no submission is dropped.
-/

namespace Udma.Sq

open Udma.Abi Udma.Arithmetic Udma.Collections Udma.Transition

namespace Ledger

/-- Owners have open entries of their own. -/
structure Owned (ledger : Ledger) : Prop where
  distinct : ledger.owners.Nodup
  opened : ∀ request ∈ ledger.owners,
    ∃ entry ∈ ledger.entries, entry.request = request ∧ entry.ready = false

/-- Open entries have owners. -/
def Covered (ledger : Ledger) : Prop :=
  ∀ entry ∈ ledger.entries, entry.ready = false → entry.request ∈ ledger.owners

variable {pipelined : Bool} {id : Nat} {tardy lossy : Prop} {ledger next : Ledger}

/-- The look-up of `CompleteSq` finds the entry reserved for the request. -/
theorem Ring.find_names (ring : ledger.Ring) {entry : SqCompletion}
    (known : entry ∈ ledger.entries) :
    ledger.entries.find? entry.request.names = some entry := by
  have named : entry.request.names entry = true := by
    simp [SqRequest.names, (ring.named entry known).completedIndex]
  cases found : ledger.entries.find? entry.request.names with
  | none =>
      have := List.find?_eq_none.mp found entry known
      exact absurd named this
  | some other =>
      have hit := List.find?_some found
      have same : other.index = entry.index := by
        simpa [SqRequest.names, (ring.named entry known).completedIndex] using hit
      rw [ring.eq_of_index_eq (List.mem_of_find?_eq_some found) known same]

/-- Owners may leave, and open entries stay. -/
theorem Owned.keep (owned : ledger.Owned) (owners : next.owners ≤ ledger.owners)
    (entries : ∀ entry ∈ ledger.entries, entry.ready = false →
      entry.request ∈ next.owners → entry ∈ next.entries) : next.Owned where
  distinct := Multiset.nodup_of_le owners owned.distinct
  opened request membership := by
    obtain ⟨entry, known, rfl, waiting⟩ :=
      owned.opened request (Multiset.subset_of_le owners membership)
    exact ⟨entry, entries entry known waiting membership, rfl, waiting⟩

theorem Step.owned (step : Step pipelined id tardy lossy ledger next) (ring : ledger.Ring)
    (published : ledger.Published pipelined id) (punctual : ¬ tardy) (owned : ledger.Owned) :
    next.Owned := by
  have stays : ∀ entry ∈ ledger.entries, entry.ready = false →
      entry.request ∈ ledger.owners → entry ∈ ledger.entries := fun _ known _ _ => known
  cases step with
  | same => exact owned
  | vanish targets demands finishers owners empty idle fewerTargets fewerDemands
      fewerFinishers fewer =>
      exact owned.keep fewer (by simp [empty])
  | create | merge | capture | direct | forget | take | release | publish | report | keep
  | abort => exact owned.keep (le_refl _) stays
  | reserve request alone clear wide placed =>
      refine ⟨?_, ?_⟩
      · refine Multiset.nodup_cons.mpr ⟨?_, owned.distinct⟩
        intro twice
        obtain ⟨entry, known, rfl, _⟩ := owned.opened request twice
        have bounds := ring.consecutive.mem_bounds known
        simp only [SqCompletion.position] at bounds
        omega
      · intro other membership
        rcases Multiset.mem_cons.mp membership with rfl | old
        · exact ⟨other.entry, by simp, rfl, rfl⟩
        · obtain ⟨entry, known, rest⟩ := owned.opened other old
          exact ⟨entry, List.mem_append_left _ known, rest⟩
  | late request allowed => exact absurd allowed punctual
  | lose request owners held =>
      refine owned.keep ?_ fun _ known _ _ => known
      rw [held]
      exact Multiset.le_cons_self _ _
  | ignore request status substatus owners held =>
      refine owned.keep ?_ fun _ known _ _ => known
      dsimp only
      rw [held]
      exact Multiset.le_cons_self _ _
  | complete request status substatus owners entry held found waiting size =>
      have distinct := owned.distinct
      rw [held, Multiset.nodup_cons] at distinct
      obtain ⟨own, known, rfl, _⟩ := owned.opened request (by simp [held])
      rw [ring.find_names known, Option.some.injEq] at found
      subst found
      obtain ⟨earlier, later, shape, skipped, hit⟩ := split_of_find (ring.find_names known)
      refine owned.keep ?_ ?_
      · dsimp only
        rw [held]
        exact Multiset.le_cons_self _ _
      · intro other inside _ stillOwned
        dsimp only at stillOwned ⊢
        rw [shape, markFirst_append skipped hit]
        refine mem_of_changed (shape ▸ inside) ?_
        rintro rfl
        exact distinct.1 stillOwned
  | publishNext entry call mode found ready =>
      obtain ⟨earlier, later, shape, skipped, hit⟩ := split_of_find found
      refine owned.keep (le_refl _) ?_
      intro other inside waiting _
      dsimp only
      rw [shape, markFirst_append skipped hit]
      refine mem_of_changed (shape ▸ inside) ?_
      rintro rfl
      simp [ready] at waiting
  | pop entry finishers serial held =>
      obtain ⟨head, ready⟩ := (published.serial serial).front (entry, some true) (by simp [held])
      dsimp only at ready
      obtain ⟨rest, queue⟩ := List.head?_eq_some_iff.mp head
      refine owned.keep (le_refl _) ?_
      intro other inside waiting _
      dsimp only
      rw [queue] at inside ⊢
      rcases List.mem_cons.mp inside with rfl | later
      · simp [ready] at waiting
      · exact later
  | retire entry current marked finishers mode held found started waiting marking =>
      have publication := published.pipelined mode
      have flags := publication.marked_flags ring held found
      rw [← marking] at flags
      obtain rfl := publication.current_eq ring held found
      have ready : current.ready = true :=
        (publication.live (current, some true) (by simp [held])).2.2.2
      obtain ⟨earlier, later, shape, skipped, hit⟩ := split_of_find found
      refine owned.keep (le_refl _) ?_
      intro other inside unready _
      have kept : other ∈ marked := by
        rw [marking, shape, markFirst_append skipped hit]
        refine mem_of_changed (shape ▸ inside) ?_
        rintro rfl
        simp [ready] at unready
      refine mem_dropWhile kept ?_
      cases finished : other.publicationDone with
      | false => rfl
      | true =>
          obtain ⟨ready, started, _⟩ := flags other kept
          simp [ready (started finished)] at unready

/-- Entries that are open now were open before. -/
theorem Covered.keep (covered : ledger.Covered) (owners : ledger.owners ⊆ next.owners)
    (entries : ∀ entry ∈ next.entries, entry.ready = false → entry ∈ ledger.entries) :
    next.Covered :=
  fun entry membership waiting => owners (covered entry (entries entry membership waiting) waiting)

theorem Step.covered (step : Step pipelined id tardy lossy ledger next) (ring : ledger.Ring)
    (published : ledger.Published pipelined id) (careful : ¬ lossy) (covered : ledger.Covered) :
    next.Covered := by
  cases step with
  | same => exact covered
  | vanish targets demands finishers owners empty => simp [Covered, empty]
  | create | merge | capture | direct | forget | take | release | publish | report | keep
  | abort => exact covered.keep (Multiset.Subset.refl _) fun _ known _ => known
  | reserve request =>
      intro entry membership waiting
      rcases List.mem_append.mp membership with old | new
      · exact Multiset.mem_cons_of_mem (covered entry old waiting)
      · obtain rfl : entry = request.entry := by simpa using new
        exact Multiset.mem_cons_self _ _
  | late request =>
      exact covered.keep (Multiset.subset_cons _ _) fun _ known _ => known
  | lose request owners held allowed => exact absurd allowed careful
  | ignore request status substatus owners held reason =>
      intro entry known waiting
      have owner := covered entry known waiting
      rw [held] at owner
      rcases Multiset.mem_cons.mp owner with rfl | other
      · -- the look-up of its own request would have found it open
        have named := ring.named entry known
        rcases reason entry (ring.find_names known) with ready | size
        · simp [waiting] at ready
        · exact absurd named.wqebbs.symm size
      · exact other
  | complete request status substatus owners entry held found waiting size =>
      obtain ⟨earlier, later, shape, skipped, hit⟩ := split_of_find found
      intro other membership unready
      dsimp only at membership ⊢
      rw [shape, markFirst_append skipped hit] at membership
      have different : other ≠ entry.complete request status substatus := by
        rintro rfl
        simp [SqCompletion.complete] at unready
      have known : other ∈ ledger.entries := shape ▸ mem_of_changed membership different
      have owner := covered other known unready
      rw [held] at owner
      rcases Multiset.mem_cons.mp owner with rfl | elsewhere
      · rw [ring.find_names known, Option.some.injEq] at found
        subst found
        have nodup := ring.consecutive.nodup
        rw [shape, List.nodup_middle, List.nodup_cons] at nodup
        have inside : other ∈ earlier ++ later := by
          simp only [List.mem_append, List.mem_cons, different, false_or] at membership ⊢
          exact membership
        exact absurd inside nodup.1
      · exact elsewhere
  | publishNext entry call mode found ready =>
      obtain ⟨earlier, later, shape, skipped, hit⟩ := split_of_find found
      refine covered.keep (Multiset.Subset.refl _) ?_
      intro other membership unready
      dsimp only at membership
      rw [shape, markFirst_append skipped hit] at membership
      rw [shape]
      refine mem_of_changed membership ?_
      rintro rfl
      simp [SqCompletion.start, ready] at unready
  | pop entry finishers serial held =>
      exact covered.keep (Multiset.Subset.refl _) fun _ known _ => List.mem_of_mem_tail known
  | retire entry current marked finishers mode held found started waiting marking =>
      have publication := published.pipelined mode
      obtain rfl := publication.current_eq ring held found
      have ready : current.ready = true :=
        (publication.live (current, some true) (by simp [held])).2.2.2
      obtain ⟨earlier, later, shape, skipped, hit⟩ := split_of_find found
      refine covered.keep (Multiset.Subset.refl _) ?_
      intro other membership unready
      have inside : other ∈ marked := (List.dropWhile_suffix _).subset membership
      rw [marking, shape, markFirst_append skipped hit] at inside
      rw [shape]
      refine mem_of_changed inside ?_
      rintro rfl
      simp [SqCompletion.finish, ready] at unready

end Ledger

/-! ## Runs -/

section Runs

variable {config : Config} {guard : State → Event → State → Prop} {state : State}

theorem owned_of_reaches (id : Nat)
    (windowed : ∀ before event after, guard before event after → after.Windowed id)
    (punctual : ∀ before event after, guard before event after → before.tardy id event = false)
    (reached : Reaches (step config) guard (State.initial config) state) :
    (state.lane id).ledger.Owned := by
  refine ledger_of_reaches id Ledger.Owned reached ⟨by simp [Lane.ledger], by simp [Lane.ledger]⟩ ?_
  intro before event after earlier allowed owned step
  obtain ⟨ring, published, _⟩ := ring_of_reaches id windowed earlier
  exact step.owned ring published (by simp [punctual before event after allowed]) owned

theorem covered_of_reaches (id : Nat)
    (windowed : ∀ before event after, guard before event after → after.Windowed id)
    (careful : ∀ before event after, Reaches (step config) guard (State.initial config) before →
      guard before event after → before.lossy id event = false)
    (reached : Reaches (step config) guard (State.initial config) state) :
    (state.lane id).ledger.Covered := by
  refine ledger_of_reaches id Ledger.Covered reached (by simp [Ledger.Covered, Lane.ledger]) ?_
  intro before event after earlier allowed covered step
  obtain ⟨ring, published, _⟩ := ring_of_reaches id windowed earlier
  exact step.covered ring published (by simp [careful before event after earlier allowed]) covered

end Runs

/-- The ledger of a Jetty in a state, and its next step. -/
structure LedgerHolds (config : Config) (state : State) (id : Nat) (jetty : Jetty) : Prop where
  balance : jetty.context.consumer + (jetty.pipe.completions.map SqCompletion.wqebbs).sum =
    jetty.pipe.issue
  posted : jetty.pipe.issue ≤
    jetty.context.consumer + sub32 jetty.context.targetProducer jetty.context.consumer
  room : jetty.pipe.issue - jetty.context.consumer ≤ jetty.context.depth
  consecutive : Consecutive SqCompletion.position SqCompletion.wqebbs jetty.context.consumer
    jetty.pipe.completions jetty.pipe.issue
  distinct : (jetty.pipe.completions.map SqCompletion.index).Nodup
  /-- `CompleteSq` finds the entry that `ReserveSq` made for the descriptor. -/
  lookup : ∀ request status substatus rest,
    state.stack = .completeSq id request status substatus :: rest →
      ∃ entry, jetty.pipe.completions.find? request.names = some entry ∧ entry.request = request
  /-- Only entries that are ready, and published where asked for, leave, from the front. -/
  retirement : ∀ event next after, step config state event = some next →
    next.jetty id = some after → after.context.consumer ≠ jetty.context.consumer →
      ∃ popped : List SqCompletion,
        jetty.pipe.completions.map SqCompletion.place =
          popped.map SqCompletion.place ++ after.pipe.completions.map SqCompletion.place ∧
        after.context.consumer =
          jetty.context.consumer + (popped.map SqCompletion.wqebbs).sum ∧
        ∀ entry ∈ popped, entry.ready = true ∧
          (entry.enabled = true → .published id entry.request.position true ∈ state.trace)

/-- The guest stays in the window. -/
def InWindow (id : Nat) (_before : State) (_event : Event) (after : State) : Prop :=
  after.Windowed id

/-- The guest stays in the window, and no send failure of a WRITE is reported after the
request has been answered. -/
def Punctual (id : Nat) (before : State) (event : Event) (after : State) : Prop :=
  after.Windowed id ∧ before.tardy id event = false

instance (id : Nat) (before : State) (event : Event) (after : State) :
    Decidable (InWindow id before event after) :=
  inferInstanceAs (Decidable (after.Windowed id))

instance (id : Nat) (before : State) (event : Event) (after : State) :
    Decidable (Punctual id before event after) :=
  inferInstanceAs (Decidable (_ ∧ _))

/-- An observation of the history is one of the trace. -/
theorem Lane.mem_trace_of_history {state : State} {id : Nat} {observation : Observation}
    (membership : observation ∈ (state.lane id).ledger.history) : observation ∈ state.trace :=
  List.mem_of_mem_filter (mem_history.mp membership).1

theorem ledger_holds {config : Config} {id : Nat} {state : State}
    (reached : Reaches (step config) (Punctual id) (State.initial config) state)
    {jetty : Jetty} (existing : state.jetty id = some jetty) :
    LedgerHolds config state id jetty := by
  obtain rfl := state.lane_jetty id existing
  obtain ⟨ring, published, _⟩ := ring_of_reaches id (fun _ _ _ allowed => allowed.1) reached
  have owned := owned_of_reaches id (fun _ _ _ allowed => allowed.1)
    (fun _ _ _ allowed => allowed.2) reached
  have bounds := Ledger.Ring.limit_le (state.lane id).ledger
  have room := ring.room
  refine ⟨ring.consecutive.sum, Nat.le_trans room bounds.2, ?_, ring.consecutive, ?_, ?_, ?_⟩
  · have : (state.lane id).ledger.issue ≤
        (state.lane id).ledger.consumer + (state.lane id).ledger.depth :=
      Nat.le_trans room bounds.1
    exact Nat.sub_le_iff_le_add'.mpr this
  · exact List.Nodup.map_on (fun _ one _ two same => ring.eq_of_index_eq one two same)
      ring.consecutive.nodup
  · intro request status substatus rest top
    have owner : request ∈ (state.lane id).ledger.owners := by
      simp [Lane.ledger, State.lane, top]
    obtain ⟨entry, known, rfl, _⟩ := owned.opened request owner
    exact ⟨entry, ring.find_names known, rfl⟩
  · intro event next after taken present changed
    obtain rfl := next.lane_jetty id present
    rcases ledger_step reached taken id with unchanged | stepped
    · rw [unchanged] at changed
      exact absurd rfl changed
    · rcases stepped.pops ring published with level | ⟨popped, pops⟩
      · exact absurd level changed
      · exact ⟨popped, pops.front, pops.advanced, fun entry membership =>
          ⟨pops.ready entry membership, fun enabled =>
            Lane.mem_trace_of_history (pops.published entry membership enabled)⟩⟩

/-- A WRITE has retired and a READ is outstanding in a ring of one block, in pipelined mode. -/
theorem ledger_holds_for_reused_block :
    ∃ state jetty, Reaches (step (.small true)) (Punctual 9) (State.initial (.small true)) state ∧
      state.jetty 9 = some jetty ∧ jetty.context.consumer = 1 ∧ jetty.pipe.issue = 2 ∧
      LedgerHolds (.small true) state 9 jetty := by
  let write := SqWqe.image true 0 0x20 3 1 0x8000 ⟨4, 0, 0x8000⟩
  let read := SqWqe.image false 0 0x20 6 1 0x8000 ⟨4, 0, 0x8000⟩
  let events : List Event := opening 9 0 ++ [.doorbell 9 1] ++ runs 7 ++
    [.fire 0 true write] ++ runs 10 ++ [.fire 0 true [1, 2, 3, 4]] ++ runs 7 ++
    [.receive { operation := .writeAck, requestId := 1, transferLength := 4 }] ++ runs 5 ++
    [.fire 1 true []] ++ runs 6 ++ [.doorbell 9 2] ++ runs 7 ++
    [.fire 1 true read] ++ runs 10
  obtain ⟨state, reached, seen⟩ := exists_of_execute
    (show (execute (step (.small true)) (Punctual 9) events (State.initial (.small true))).map
      (fun state => (state.jetty 9).map fun jetty =>
        (jetty.context.consumer, jetty.pipe.issue)) = some (some (1, 2)) by decide +kernel)
  obtain ⟨jetty, existing, counters⟩ := Option.map_eq_some_iff.mp seen
  simp only [Prod.mk.injEq] at counters
  exact ⟨state, jetty, reached, existing, counters.1, counters.2, ledger_holds reached existing⟩

/-- Whether the next activation of `CompleteSq` finds an entry, and the entry of its request. -/
def State.nextLookup (state : State) (id : Nat) : Option (Option Bool) :=
  match state.stack with
  | .completeSq other request _ _ :: _ =>
      if other = id then
        (state.jetty id).map fun jetty =>
          (jetty.pipe.completions.find? request.names).map fun entry =>
            decide (entry.request = request)
      else none
  | _ => none

/-- A WRITE is answered and retires, a READ takes its block, and then the network reports
that the WRITE was not sent: `CompleteSq` is called for the WRITE and finds the entry of the
READ. -/
theorem late_failure_completes_other_entry :
    ¬ ∀ (state : State) (jetty : Jetty),
      Reaches (step (.small false)) (InWindow 9) (State.initial (.small false)) state →
      state.jetty 9 = some jetty → LedgerHolds (.small false) state 9 jetty := by
  intro holds
  let write := SqWqe.image true 0 0 3 1 0x8000 ⟨4, 0, 0x8000⟩
  let read := SqWqe.image false 0 0 6 1 0x8000 ⟨4, 0, 0x8000⟩
  let events : List Event := opening 9 0 ++ [.doorbell 9 1] ++ runs 7 ++
    [.fire 0 true write] ++ runs 10 ++ [.fire 0 true [1, 2, 3, 4]] ++ runs 7 ++
    [.receive { operation := .writeAck, requestId := 1, transferLength := 4 }] ++ runs 9 ++
    [.doorbell 9 2] ++ runs 7 ++ [.fire 1 true read] ++ runs 10 ++ [.fire 0 false []]
  obtain ⟨state, reached, seen⟩ := exists_of_execute
    (show (execute (step (.small false)) (InWindow 9) events (State.initial (.small false))).map
      (fun state => state.nextLookup 9) = some (some (some false)) by decide +kernel)
  unfold State.nextLookup at seen
  split at seen
  next other request status substatus rest top =>
    split at seen
    next own =>
      subst own
      obtain ⟨jetty, existing, wrong⟩ := Option.map_eq_some_iff.mp seen
      obtain ⟨entry, found, same⟩ :=
        (holds state jetty reached existing).lookup request status substatus rest top
      simp [found, same] at wrong
    next => simp at seen
  next => simp at seen

end Udma.Sq
