import Mathlib
import Udma.Cq.Trades

/-!
# Conservation of the completion-event slots

The counter of slots in use against the reservations that the trace records: the
admitted publications whose CQE phase has not ended, and the completion events
whose notification has not.
-/

namespace Udma.Cq

open Udma.Collections Udma.Transition

def Token.slot? : Token → Option Nat
  | .slot ticket => some ticket
  | _ => none

def Token.caller? : Token → Option Nat
  | .caller call => some call
  | _ => none

def Entry.admitted? : Entry → Option Nat
  | .admitted ticket => some ticket
  | _ => none

def Entry.fired? : Entry → Option Nat
  | .fired ticket => some ticket
  | _ => none

def Entry.notifying? : Entry → Option Nat
  | .notifying ticket => some ticket
  | _ => none

def Entry.released? : Entry → Option Nat
  | .released ticket => some ticket
  | _ => none

def Entry.completed? : Entry → Option Nat
  | .completed call => some call
  | _ => none

@[simp]
theorem slots_slot (ticket : Nat) (tokens : Multiset Token) :
    (Token.slot ticket ::ₘ tokens).filterMap Token.slot? =
      ticket ::ₘ tokens.filterMap Token.slot? :=
  Multiset.filterMap_cons_some _ _ _ rfl

@[simp]
theorem slots_queue (id : Nat) (tokens : Multiset Token) :
    (Token.queue id ::ₘ tokens).filterMap Token.slot? = tokens.filterMap Token.slot? :=
  Multiset.filterMap_cons_none _ _ rfl

@[simp]
theorem slots_caller (call : Nat) (tokens : Multiset Token) :
    (Token.caller call ::ₘ tokens).filterMap Token.slot? = tokens.filterMap Token.slot? :=
  Multiset.filterMap_cons_none _ _ rfl

@[simp]
theorem callers_slot (ticket : Nat) (tokens : Multiset Token) :
    (Token.slot ticket ::ₘ tokens).filterMap Token.caller? = tokens.filterMap Token.caller? :=
  Multiset.filterMap_cons_none _ _ rfl

@[simp]
theorem callers_queue (id : Nat) (tokens : Multiset Token) :
    (Token.queue id ::ₘ tokens).filterMap Token.caller? = tokens.filterMap Token.caller? :=
  Multiset.filterMap_cons_none _ _ rfl

@[simp]
theorem callers_caller (call : Nat) (tokens : Multiset Token) :
    (Token.caller call ::ₘ tokens).filterMap Token.caller? =
      call ::ₘ tokens.filterMap Token.caller? :=
  Multiset.filterMap_cons_some _ _ _ rfl

/-- The selections from the journal, in the order of the journal. -/
def Books.select (books : Books) (select : Entry → Option Nat) : List Nat :=
  books.journal.filterMap select

/-- The books balance. -/
structure Books.Balanced (limit : Nat) (books : Books) : Prop where
  slots : books.tokens.filterMap Token.slot? + ↑(books.select Entry.released?) =
    Multiset.range books.tickets
  inUse : books.inUse = (books.tokens.filterMap Token.slot?).card
  bounded : books.inUse ≤ limit
  reserved : (↑(books.select Entry.admitted?) : Multiset Nat) + ↑(books.select Entry.fired?) =
    Multiset.range books.tickets
  handed : ↑(books.select Entry.notifying?) + books.publishing ≤
    (↑(books.select Entry.admitted?) : Multiset Nat)
  callers : books.tokens.filterMap Token.caller? + ↑(books.select Entry.completed?) =
    Multiset.range books.calls
  queues : ∀ id, books.tokens.count (.queue id) = books.load id

namespace Books.Balanced

variable {limit : Nat} {before after : Books}

theorem kept (balanced : before.Balanced limit) (kept : before.Kept after) :
    after.Balanced limit where
  slots := by
    rw [kept.tokens, kept.tickets, Books.select, kept.journal]
    exact balanced.slots
  inUse := by rw [kept.inUse, kept.tokens, balanced.inUse]
  bounded := by
    rw [kept.inUse]
    exact balanced.bounded
  reserved := by
    rw [kept.tickets, Books.select, Books.select, kept.journal]
    exact balanced.reserved
  handed := by
    rw [Books.select, Books.select, kept.journal]
    exact (add_le_add_right kept.publishing _).trans balanced.handed
  callers := by
    rw [kept.tokens, kept.calls, Books.select, kept.journal]
    exact balanced.callers
  queues := by
    rw [kept.tokens, kept.load]
    exact balanced.queues

/-- The journal with one more entry. -/
theorem select_append {entry : Entry} (journal : after.journal = before.journal ++ [entry])
    (select : Entry → Option Nat) :
    after.select select = before.select select ++ (select entry).toList := by
  rw [Books.select, journal, List.filterMap_append]
  cases picked : select entry <;> simp [Books.select, picked]

theorem select_same (journal : after.journal = before.journal) (select : Entry → Option Nat) :
    after.select select = before.select select := by
  rw [Books.select, journal]
  rfl

theorem called (balanced : before.Balanced limit)
    (kept : before.Kept { after with tokens := before.tokens, calls := before.calls })
    (tokens : after.tokens = {.caller before.calls} + before.tokens)
    (calls : after.calls = before.calls + 1) : after.Balanced limit := by
  have journal : after.journal = before.journal := kept.journal
  constructor
  · rw [tokens, select_same journal, kept.tickets]
    simpa using balanced.slots
  · rw [tokens, kept.inUse]
    simpa using balanced.inUse
  · rw [kept.inUse]
    exact balanced.bounded
  · rw [select_same journal, select_same journal, kept.tickets]
    exact balanced.reserved
  · rw [select_same journal, select_same journal]
    exact (add_le_add_right kept.publishing _).trans balanced.handed
  · rw [tokens, calls, select_same journal, Multiset.range_succ, ← balanced.callers]
    simp
  · intro id
    rw [tokens, kept.load]
    simpa using balanced.queues id

/-- A slot is taken, with or without an admitted publication. -/
theorem reserve {entry : Entry} (balanced : before.Balanced limit) (gained : Multiset Token)
    (wide : limit < 2 ^ 32) (room : before.inUse < limit)
    (tokens : after.tokens = {.slot before.tickets} + gained + before.tokens)
    (inUse : after.inUse = (before.inUse + 1) % 2 ^ 32)
    (tickets : after.tickets = before.tickets + 1) (calls : after.calls = before.calls)
    (journal : after.journal = before.journal ++ [entry])
    (quiet : entry.released? = none ∧ entry.notifying? = none ∧ entry.completed? = none)
    (unslotted : gained.filterMap Token.slot? = 0)
    (unclaimed : gained.filterMap Token.caller? = 0)
    (counted : (↑entry.admitted?.toList : Multiset Nat) + ↑entry.fired?.toList =
      {before.tickets})
    (publishing : after.publishing ≤ ↑entry.admitted?.toList + before.publishing)
    (queues : ∀ id, after.load id = before.load id + gained.count (.queue id)) :
    after.Balanced limit := by
  obtain ⟨unreleased, unnotified, uncompleted⟩ := quiet
  have used : after.inUse = before.inUse + 1 := by
    rw [inUse, Nat.mod_eq_of_lt (by omega)]
  constructor
  · rw [tokens, tickets, select_append journal, unreleased, Multiset.range_succ,
      ← balanced.slots]
    simp [Multiset.filterMap_add, unslotted]
  · rw [tokens, used, balanced.inUse]
    simp [Multiset.filterMap_add, unslotted]
  · omega
  · rw [tickets, select_append journal, select_append journal, Multiset.range_succ,
      ← balanced.reserved, ← Multiset.singleton_add, ← counted]
    simp only [← Multiset.coe_add]
    abel
  · rw [select_append journal, select_append journal, unnotified]
    simp only [Option.toList_none, List.append_nil, ← Multiset.coe_add]
    calc (↑(before.select Entry.notifying?) : Multiset Nat) + after.publishing
        ≤ ↑(before.select Entry.notifying?) +
            (↑entry.admitted?.toList + before.publishing) := add_le_add_right publishing _
      _ = (↑(before.select Entry.notifying?) + before.publishing) + ↑entry.admitted?.toList := by
          abel
      _ ≤ ↑(before.select Entry.admitted?) + ↑entry.admitted?.toList :=
          add_le_add_left balanced.handed _
  · rw [tokens, calls, select_append journal, uncompleted, ← balanced.callers]
    simp [Multiset.filterMap_add, unclaimed]
  · intro id
    rw [tokens, queues, ← balanced.queues]
    simp
    omega

theorem notifying {ticket : Nat} (balanced : before.Balanced limit)
    (kept : before.Kept { after with journal := before.journal })
    (publishing : before.publishing = {ticket} + after.publishing)
    (journal : after.journal = before.journal ++ [.notifying ticket]) :
    after.Balanced limit := by
  constructor
  · rw [kept.tokens, kept.tickets, select_append journal]
    simpa [Entry.released?] using balanced.slots
  · rw [kept.tokens, kept.inUse, balanced.inUse]
  · rw [kept.inUse]
    exact balanced.bounded
  · rw [select_append journal, select_append journal, kept.tickets]
    simpa [Entry.admitted?, Entry.fired?] using balanced.reserved
  · have handed := balanced.handed
    rw [publishing, ← add_assoc] at handed
    rw [select_append journal, select_append journal]
    simpa [Entry.admitted?, Entry.notifying?, ← Multiset.coe_add] using handed
  · rw [kept.tokens, kept.calls, select_append journal]
    simpa [Entry.completed?] using balanced.callers
  · rw [kept.tokens, kept.load]
    exact balanced.queues

theorem completed {call : Nat} (balanced : before.Balanced limit)
    (kept : before.Kept { after with tokens := before.tokens, journal := before.journal })
    (tokens : before.tokens = {.caller call} + after.tokens)
    (journal : after.journal = before.journal ++ [.completed call]) :
    after.Balanced limit := by
  constructor
  · have slots := balanced.slots
    rw [tokens] at slots
    rw [kept.tickets, select_append journal]
    simpa [Entry.released?] using slots
  · have inUse := balanced.inUse
    rw [tokens] at inUse
    rw [kept.inUse]
    simpa using inUse
  · rw [kept.inUse]
    exact balanced.bounded
  · rw [select_append journal, select_append journal, kept.tickets]
    simpa [Entry.admitted?, Entry.fired?] using balanced.reserved
  · rw [select_append journal, select_append journal]
    refine (add_le_add_right kept.publishing _).trans ?_
    simpa [Entry.admitted?, Entry.notifying?] using balanced.handed
  · have callers := balanced.callers
    rw [tokens] at callers
    rw [kept.calls, select_append journal, ← callers]
    simp only [Entry.completed?, Option.toList_some, ← Multiset.coe_add, Multiset.coe_singleton,
      Multiset.singleton_add, callers_caller]
    rw [← Multiset.singleton_add]
    abel
  · intro id
    have queues := balanced.queues id
    rw [tokens] at queues
    rw [kept.load, ← queues]
    simp

theorem releasedQueue {id : Nat} (balanced : before.Balanced limit)
    (kept : before.Kept { after with tokens := before.tokens, load := before.load })
    (tokens : before.tokens = {.queue id} + after.tokens)
    (load : after.load = Function.update before.load id (before.load id - 1)) :
    after.Balanced limit := by
  have journal : after.journal = before.journal := kept.journal
  constructor
  · have slots := balanced.slots
    rw [tokens] at slots
    rw [kept.tickets, select_same journal]
    simpa using slots
  · have inUse := balanced.inUse
    rw [tokens] at inUse
    rw [kept.inUse]
    simpa using inUse
  · rw [kept.inUse]
    exact balanced.bounded
  · rw [select_same journal, select_same journal, kept.tickets]
    exact balanced.reserved
  · rw [select_same journal, select_same journal]
    exact (add_le_add_right kept.publishing _).trans balanced.handed
  · have callers := balanced.callers
    rw [tokens] at callers
    rw [kept.calls, select_same journal]
    simpa using callers
  · intro other
    have queues := balanced.queues other
    rw [tokens] at queues
    rw [load]
    by_cases same : other = id
    · subst same
      simp at queues ⊢
      omega
    · simpa [Function.update_of_ne same, same] using queues

theorem releasedSlot {ticket : Nat} (balanced : before.Balanced limit)
    (kept : before.Kept
      { after with tokens := before.tokens, inUse := before.inUse, journal := before.journal })
    (tokens : before.tokens = {.slot ticket} + after.tokens)
    (inUse : after.inUse = decrement32 before.inUse)
    (journal : after.journal = before.journal ++ [.released ticket]) :
    after.Balanced limit := by
  have held := balanced.inUse
  rw [tokens] at held
  simp only [Multiset.singleton_add, slots_slot, Multiset.card_cons] at held
  have used : after.inUse = before.inUse - 1 := by
    rw [inUse, decrement32, if_neg (by omega)]
  constructor
  · have slots := balanced.slots
    rw [tokens] at slots
    rw [kept.tickets, select_append journal, ← slots]
    simp only [Entry.released?, Option.toList_some, ← Multiset.coe_add, Multiset.coe_singleton,
      Multiset.singleton_add, slots_slot]
    rw [← Multiset.singleton_add]
    abel
  · omega
  · have bounded := balanced.bounded
    omega
  · rw [select_append journal, select_append journal, kept.tickets]
    simpa [Entry.admitted?, Entry.fired?] using balanced.reserved
  · rw [select_append journal, select_append journal]
    refine (add_le_add_right kept.publishing _).trans ?_
    simpa [Entry.admitted?, Entry.notifying?] using balanced.handed
  · have callers := balanced.callers
    rw [tokens] at callers
    rw [kept.calls, select_append journal]
    simpa [Entry.completed?] using callers
  · intro id
    have queues := balanced.queues id
    rw [tokens] at queues
    rw [kept.load, ← queues]
    simp

/-- Every trade keeps the balance. -/
theorem trade (balanced : before.Balanced limit) (wide : limit < 2 ^ 32)
    (trade : Trade limit before after) : after.Balanced limit := by
  cases trade with
  | kept same => exact balanced.kept same
  | called same tokens calls => exact balanced.called same tokens calls
  | admitted id room tokens publishing inUse tickets calls load journal =>
      refine balanced.reserve {.queue id} wide room tokens inUse tickets calls journal ⟨rfl, rfl, rfl⟩
        rfl rfl rfl publishing ?_
      intro other
      rw [load]
      by_cases same : other = id
      · subst same
        simp
      · simp [same]
  | fired room tokens publishing inUse tickets calls load journal =>
      refine balanced.reserve 0 wide room ?_ inUse tickets calls journal
        ⟨rfl, rfl, rfl⟩ rfl rfl rfl ?_ ?_
      · rw [tokens, add_zero]
      · exact (publishing.trans (zero_add _).symm).le
      · intro id
        rw [load]
        simp
  | notifying ticket same publishing journal => exact balanced.notifying same publishing journal
  | completed call same tokens journal => exact balanced.completed same tokens journal
  | releasedQueue id same tokens load => exact balanced.releasedQueue same tokens load
  | releasedSlot ticket same tokens inUse journal =>
      exact balanced.releasedSlot same tokens inUse journal

end Books.Balanced

variable {config : Config} {state : State}

theorem balanced_of_reaches {guard : State → Event → State → Prop}
    (reached : Reaches (step config) guard .initial state) :
    (state.books config).Balanced config.completionEventSlots := by
  have bounds := config.slots_bounds
  refine reached.induction_on
    (fun state => (state.books config).Balanced config.completionEventSlots) ?_ ?_
  · constructor <;> simp [State.books, State.initial, State.tokens, State.publishing, State.load,
      Books.select]
  · intro before event after earlier balanced taken _
    exact balanced.trade (by omega)
      (step_trade taken (watched_of_reaches earlier).attended)

/-! ## The counter -/

/-- What the trace records of one kind. -/
def journal (trace : List Observation) (select : Entry → Option Nat) : List Nat :=
  (trace.filterMap Observation.entry).filterMap select

/-- The admitted publications whose CQE phase has not ended: neither did they give
their slot back, nor did they hand it to a completion event. -/
def openPublications (trace : List Observation) : Nat :=
  ((journal trace Entry.admitted?).filter fun ticket =>
    ticket ∉ journal trace Entry.notifying? ∧ ticket ∉ journal trace Entry.released?).length

/-- The completion events, of a visible CQE or of a moderation timer, whose
notification has not ended. -/
def openEvents (trace : List Observation) : Nat :=
  ((journal trace Entry.notifying? ++ journal trace Entry.fired?).filter fun ticket =>
    ticket ∉ journal trace Entry.released?).length

section Counting

variable {held released admitted fired notifying : Multiset Nat} {count : Nat}

/-- What is not released is held. -/
theorem card_held (slots : held + released = Multiset.range count) :
    held.card = ((Multiset.range count).filter fun ticket => ticket ∉ released).card := by
  have distinct : (held + released).Nodup := by
    rw [slots]
    exact Multiset.nodup_range count
  obtain ⟨_, _, apart⟩ := Multiset.nodup_add.mp distinct
  rw [← slots, Multiset.filter_add]
  have all : held.filter (fun ticket => ticket ∉ released) = held :=
    Multiset.filter_eq_self.mpr fun ticket own other =>
      Multiset.disjoint_left.mp apart own other
  have none : released.filter (fun ticket => ticket ∉ released) = 0 :=
    Multiset.filter_eq_nil.mpr fun ticket own other => other own
  rw [all, none, add_zero]

/-- A part of a set, selected from it. -/
theorem filter_mem_of_le (within : notifying ≤ admitted) (distinct : admitted.Nodup) :
    admitted.filter (fun ticket => ticket ∈ notifying) = notifying := by
  apply (Multiset.Nodup.ext (distinct.filter _) (Multiset.nodup_of_le within distinct)).mpr
  intro ticket
  rw [Multiset.mem_filter]
  exact ⟨fun both => both.2, fun own => ⟨Multiset.mem_of_le within own, own⟩⟩

/-- A selection from a set, counted with a part of the set apart. -/
theorem card_filter_split (within : notifying ≤ admitted) (distinct : admitted.Nodup)
    (test : Nat → Prop) [DecidablePred test] :
    (admitted.filter test).card =
      (admitted.filter fun ticket => ticket ∉ notifying ∧ test ticket).card +
        (notifying.filter test).card := by
  have parts := Multiset.filter_add_not (fun ticket => ticket ∈ notifying) (admitted.filter test)
  rw [Multiset.filter_comm, filter_mem_of_le within distinct, Multiset.filter_filter] at parts
  rw [← parts, Multiset.card_add, add_comm]

end Counting

theorem inUse_eq_open (balanced : (state.books config).Balanced config.completionEventSlots) :
    state.completionEventSlotsInUse =
      openPublications state.trace + openEvents state.trace := by
  have reserved : (↑(journal state.trace Entry.admitted?) : Multiset Nat) +
      ↑(journal state.trace Entry.fired?) = Multiset.range state.tickets := balanced.reserved
  have distinct : (↑(journal state.trace Entry.admitted?) : Multiset Nat).Nodup := by
    have all := Multiset.nodup_range state.tickets
    rw [← reserved] at all
    exact (Multiset.nodup_add.mp all).1
  have within : (↑(journal state.trace Entry.notifying?) : Multiset Nat) ≤
      ↑(journal state.trace Entry.admitted?) :=
    (Multiset.le_add_right _ _).trans balanced.handed
  have opened : openPublications state.trace =
      ((↑(journal state.trace Entry.admitted?) : Multiset Nat).filter fun ticket =>
        ticket ∉ (↑(journal state.trace Entry.notifying?) : Multiset Nat) ∧
          ticket ∉ (↑(journal state.trace Entry.released?) : Multiset Nat)).card := rfl
  have events : openEvents state.trace =
      ((↑(journal state.trace Entry.notifying?) + ↑(journal state.trace Entry.fired?) :
        Multiset Nat).filter fun ticket =>
          ticket ∉ (↑(journal state.trace Entry.released?) : Multiset Nat)).card := rfl
  rw [opened, events, Multiset.filter_add, Multiset.card_add, ← add_assoc,
    ← card_filter_split within distinct, ← Multiset.card_add, ← Multiset.filter_add, reserved]
  exact balanced.inUse.trans (card_held balanced.slots)

/-- The reservations are the tickets handed out so far. -/
theorem mem_reserved_iff (balanced : (state.books config).Balanced config.completionEventSlots)
    (ticket : Nat) :
    ticket ∈ journal state.trace Entry.admitted? ++ journal state.trace Entry.fired? ↔
      ticket < state.tickets := by
  have reserved : (↑(journal state.trace Entry.admitted?) : Multiset Nat) +
      ↑(journal state.trace Entry.fired?) = Multiset.range state.tickets := balanced.reserved
  rw [← Multiset.mem_range, ← reserved, ← Multiset.mem_coe, ← Multiset.coe_add]

theorem count_slot (tokens : Multiset Token) (ticket : Nat) :
    (tokens.filterMap Token.slot?).count ticket = tokens.count (.slot ticket) := by
  induction tokens using Multiset.induction_on with
  | empty => rfl
  | cons token rest inductionHypothesis =>
      cases token with
      | slot other =>
          by_cases same : ticket = other
          · subst same
            simp [inductionHypothesis]
          · simp [inductionHypothesis, Multiset.count_cons_of_ne, same]
      | queue id => simp [inductionHypothesis]
      | caller call => simp [inductionHypothesis]

/-- A reservation is either released once, or held by one activation, callback or
queued event. -/
theorem released_or_held
    (balanced : (state.books config).Balanced config.completionEventSlots) (ticket : Nat) :
    (journal state.trace Entry.released?).count ticket + state.tokens.count (.slot ticket) =
      if ticket ∈ journal state.trace Entry.admitted? ++ journal state.trace Entry.fired? then 1
      else 0 := by
  have slots : (state.tokens.filterMap Token.slot?) +
      ↑(journal state.trace Entry.released?) = Multiset.range state.tickets := balanced.slots
  have counted := congrArg (Multiset.count ticket) slots
  rw [Multiset.count_add, count_slot, Multiset.coe_count] at counted
  rw [add_comm, counted]
  by_cases issued : ticket < state.tickets
  · rw [if_pos ((mem_reserved_iff balanced ticket).mpr issued)]
    exact Multiset.count_eq_one_of_mem (Multiset.nodup_range _) (Multiset.mem_range.mpr issued)
  · rw [if_neg (mt (mem_reserved_iff balanced ticket).mp issued)]
    exact Multiset.count_eq_zero.mpr (mt Multiset.mem_range.mp issued)

theorem inUse_pos_of_release
    (balanced : (state.books config).Balanced config.completionEventSlots) {ticket : Nat}
    {rest : List Task} (shape : state.stack = .releaseCompletionEventSlot ticket :: rest) :
    0 < state.completionEventSlotsInUse := by
  have counted : state.completionEventSlotsInUse =
      (state.tokens.filterMap Token.slot?).card := balanced.inUse
  rw [counted, tokens_of_stack shape]
  simp [Task.tokens]

/-- With nothing running, nothing outstanding and no event queued, no slot is held. -/
theorem no_slot_of_quiet (stack : state.stack = []) (outstanding : state.outstanding = [])
    (events : state.completionEvents = []) (ticket : Nat) :
    state.tokens.count (.slot ticket) = 0 := by
  rw [Multiset.count_eq_zero]
  intro held
  simp only [State.tokens, stack, outstanding, events, List.map_nil, List.sum_nil, zero_add] at held
  obtain ⟨entry, _, queued⟩ := mem_tableTotal.mp held
  obtain ⟨publication, _, own⟩ := mem_sum_map.mp queued
  simp [Publication.tokens] at own

/-- The slots in use are the open publications and the open events; there are never
more than the pool has; none is returned twice; and each reservation is released
once, or is held by exactly one activation, callback or queued event. -/
theorem completion_slots_conserved (reached : Reaches (step config) always .initial state) :
    state.completionEventSlotsInUse =
        openPublications state.trace + openEvents state.trace ∧
      state.completionEventSlotsInUse ≤ config.completionEventSlots ∧
      (∀ ticket rest, state.stack = .releaseCompletionEventSlot ticket :: rest →
        0 < state.completionEventSlotsInUse) ∧
      (∀ ticket, (journal state.trace Entry.released?).count ticket +
          state.tokens.count (.slot ticket) =
        if ticket ∈ journal state.trace Entry.admitted? ++ journal state.trace Entry.fired? then 1
        else 0) ∧
      (state.stack = [] → state.outstanding = [] → state.completionEvents = [] →
        ∀ ticket ∈ journal state.trace Entry.admitted? ++ journal state.trace Entry.fired?,
          (journal state.trace Entry.released?).count ticket = 1) := by
  have balanced := balanced_of_reaches reached
  refine ⟨inUse_eq_open balanced, balanced.bounded, fun _ _ => inUse_pos_of_release balanced,
    released_or_held balanced, ?_⟩
  intro stack outstanding events ticket reserved
  have once := released_or_held balanced ticket
  rw [if_pos reserved, no_slot_of_quiet stack outstanding events] at once
  exact once

/-- Two CQEs in pipelined mode: the write of the first has ended and its event is
being written, the write of the second has not ended. -/
def twoCqes : List Event :=
  created ++ [.writeCqe 7 .small] ++ pass 8 ++ [.writeCqe 7 .small] ++ pass 8 ++
    [.fire 0 true []] ++ runs 3

theorem slots_conserved_for_two_cqes :
    ∃ state, Reaches (step (.small true)) always .initial state ∧
      state.completionEventSlotsInUse = 2 ∧
      openPublications state.trace + openEvents state.trace = 2 := by
  obtain ⟨state, reached, inUse⟩ := exists_of_execute
    (show (execute (step (.small true)) always twoCqes .initial).map
      (fun state => state.completionEventSlotsInUse) = some 2 by decide +kernel)
  exact ⟨state, reached, inUse, (completion_slots_conserved reached).1.symm.trans inUse⟩

end Udma.Cq
