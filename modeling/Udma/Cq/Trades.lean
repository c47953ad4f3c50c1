import Udma.Collections.MarkFirst
import Udma.Cq.Events
import Udma.Cq.Ledger

/-!
# Every step is a trade

Each step of the engine does to the books one of the things that `Trade` lists.
-/

namespace Udma.Cq

open Udma.Abi Udma.Collections

variable {config : Config} {limit : Nat} {state after : State} {tokens : Multiset Token}

/-- The books of a state, with tokens and a publication that are just being handed
over. -/
def State.owed (config : Config) (state : State) (tokens : Multiset Token)
    (publishing : Multiset Nat) : Books :=
  { state.books config with
    tokens := tokens + state.tokens
    publishing := publishing + state.publishing }

theorem Owing.kept {publishing : Multiset Nat} (owing : Owing config tokens state after)
    (fewer : after.publishing ≤ publishing + state.publishing) :
    (state.owed config tokens publishing).Kept (after.books config) where
  tokens := owing.tokens
  publishing := fewer
  inUse := owing.inUse
  tickets := owing.tickets
  calls := owing.calls
  load := owing.load
  journal := owing.journal

theorem Passing.trade {publishing : Multiset Nat} (passing : Passing config tokens state after) :
    Trade limit (state.owed config tokens publishing) (after.books config) :=
  .kept (passing.owing.kept (passing.publishing.le.trans (Multiset.le_add_left _ _)))

theorem push_passing (config : Config) (state : State) (tasks : List Task)
    (weightless : (tasks.map Task.tokens).sum = 0) :
    Passing config 0 state (state.push tasks) :=
  (Passing.refl config state).then_push weightless

/-! ## Events -/

/-- The queue of events takes over the slot. -/
theorem enqueue_passing (config : Config) (state : State) (event : CompletionEvent) :
    Passing config {.slot event.ticket} state
      { state with completionEvents := state.completionEvents ++ [event] } := by
  constructor
  · constructor
    · simp only [State.tokens, List.map_append, List.sum_append, List.map_cons, List.map_nil,
        List.sum_cons, List.sum_nil, CompletionEvent.tokens]
      abel
    all_goals rfl
  · rfl

theorem emitCompletionEvent_passing (config : Config) (state : State) (ticket id : Nat) :
    Passing config {.slot ticket} state (emitCompletionEvent config state ticket id) := by
  unfold emitCompletionEvent
  split
  next => exact (Passing.refl config state).then_push (by simp [Task.tokens])
  next =>
    cases mode : config.oneShotJfcNotifications with
    | true =>
        have disarmed : Passing config 0 state
            { state with armedJfcs := state.armedJfcs.insert id false } := by
          apply Passing.of_eq <;> rfl
        simp only [if_true]
        split
        next => exact disarmed.then_push (by simp [Task.tokens])
        next ceqId _ =>
          refine Passing.then_schedule (Passing.then_emit ?_ (by rfl)) (by rfl)
          exact disarmed.trans (enqueue_passing config _ ⟨ticket, id, ceqId⟩)
    | false =>
        simp only [Bool.false_eq_true, if_false]
        split
        next => exact (Passing.refl config state).then_push (by simp [Task.tokens])
        next ceqId _ =>
          refine Passing.then_schedule (Passing.then_emit ?_ (by rfl)) (by rfl)
          exact enqueue_passing config state ⟨ticket, id, ceqId⟩

/-- Taking an event off the queue uncovers its slot. -/
theorem tokens_dequeue {event : CompletionEvent} {wanted : CompletionEvent → Bool}
    (found : state.completionEvents.find? wanted = some event) :
    state.tokens = {.slot event.ticket} +
      { state with completionEvents := state.completionEvents.eraseP wanted }.tokens := by
  have moved : (state.completionEvents.map CompletionEvent.tokens).sum =
      {.slot event.ticket} +
        ((state.completionEvents.eraseP wanted).map CompletionEvent.tokens).sum := by
    obtain ⟨earlier, later, shape, skipped, met⟩ := split_of_find found
    rw [shape, eraseP_append skipped met]
    simp only [List.map_append, List.map_cons, List.sum_append, List.sum_cons,
      CompletionEvent.tokens]
    abel
  simp only [State.tokens, moved]
  abel

/-- What is done with an event taken off the queue. -/
theorem passing_of_dequeue {event : CompletionEvent} {wanted : CompletionEvent → Bool}
    (found : state.completionEvents.find? wanted = some event)
    (passing : Passing config {.slot event.ticket}
      { state with completionEvents := state.completionEvents.eraseP wanted } after) :
    Passing config 0 state after where
  tokens := by rw [passing.tokens, ← tokens_dequeue found, zero_add]
  inUse := passing.inUse
  tickets := passing.tickets
  calls := passing.calls
  load := passing.load
  journal := passing.journal
  publishing := passing.publishing

theorem dispatchCompletionEvents_passing (config : Config) (state : State) :
    Passing config 0 state (dispatchCompletionEvents state) := by
  have left : Passing config 0 state (leaveCompletionEvents state) := by
    refine Passing.then_push ?_ (by simp [Task.tokens])
    apply Passing.of_eq <;> rfl
  unfold dispatchCompletionEvents
  split
  next => exact left
  next =>
    split
    next => exact left
    next event found =>
      apply passing_of_dequeue found
      split
      next => exact (Passing.refl config _).then_push (by simp [Task.tokens])
      next ceq _ =>
        refine Passing.then_call (Passing.then_emit ?_ (by rfl)) (by rfl) (by rfl)
        have scheduled : Passing config 0
            { state with completionEvents := state.completionEvents.eraseP state.eligible }
            ({ state with completionEvents :=
                state.completionEvents.eraseP state.eligible }.push [.dispatchCompletionEvents]) :=
          (Passing.refl config _).then_schedule rfl
        refine scheduled.trans ?_
        apply Passing.of_eq <;> rfl

/-- The end of an event gives its slot to the release. -/
theorem eventEnded_tokens (ticket : Nat) :
    ((eventEnded ticket).map Task.tokens).sum = {.slot ticket} := by
  simp [eventEnded, Task.tokens]

theorem interruptRaised_passing (config : Config) (state : State) (ticket : Nat) :
    Passing config {.slot ticket} state (interruptRaised state ticket) := by
  refine Passing.then_push ?_ (eventEnded_tokens ticket)
  apply Passing.of_eq <;> rfl

/-- A CEQ that is still there when its entry has been written. -/
theorem ceqeWritten_passing (config : Config) {state : State} {ticket ceqId : Nat}
    (present : (state.ceqs.lookup ceqId).isSome) (ok : Bool) :
    Passing config {.slot ticket} state (ceqeWritten state ticket ceqId ok) := by
  unfold ceqeWritten
  split
  next absent => simp [absent] at present
  next ceq _ =>
    split
    next =>
      refine Passing.then_call ?_ (by rfl) (by rfl)
      apply Passing.of_eq <;> rfl
    next =>
      refine Passing.then_push ?_ (eventEnded_tokens ticket)
      apply Passing.of_eq <;> rfl

/-! ## Publications -/

section Publications

variable {ticket id : Nat} {publication : Publication}

/-- The tokens of a publication that a callback gives back. -/
theorem finish_trade {changed : State} {call : Nat} (same : Passing config 0 state changed)
    (ok : Bool) :
    Trade limit (state.owed config (publicationTokens ticket id call) {ticket})
      ((changed.push (finish ticket id call ok)).books config) :=
  (same.then_push (finish_tokens ticket id call ok)).trade

theorem moderate_trade {changed : State} {call : Nat} (same : Passing config 0 state changed)
    (jfc : Jfc) :
    Trade limit (state.owed config (publicationTokens ticket id call) {ticket})
      ((moderate changed ticket id call jfc).books config) := by
  unfold moderate
  split
  next =>
    apply finish_trade
    exact same.trans (by apply Passing.of_eq <;> rfl)
  next =>
    have handed : Passing config (publicationTokens ticket id call) state
        ((changed.setJfc id { jfc with pendingCompletions := 0, moderationDeadline := 0 }).push
          [.emitCompletionEvent ticket id, .complete call true, .releasePublication id]) := by
      refine Passing.then_push (same.trans (by apply Passing.of_eq <;> rfl)) ?_
      simp only [List.map_cons, List.map_nil, List.sum_cons, List.sum_nil, Task.tokens,
        publicationTokens]
      abel
    refine .notifying ticket ⟨handed.tokens, ?_, handed.inUse, handed.tickets, handed.calls,
      handed.load, rfl⟩ ?_ ?_
    · exact handed.publishing.le.trans (Multiset.le_add_left _ _)
    · exact congrArg (({ticket} : Multiset Nat) + ·) handed.publishing.symm
    · have unchanged := handed.journal
      simp only [State.push_trace, State.setJfc_trace] at unchanged
      simp only [State.books, State.owed, State.push_trace, State.emit_trace,
        State.setJfc_trace, List.filterMap_append, unchanged]
      rfl

theorem cqeWritten_trade (config : Config) (limit : Nat) (state : State) (ticket id : Nat)
    (publication : Publication) (ok : Bool) :
    Trade limit (state.owed config (publicationTokens ticket id publication.call) {ticket})
      ((cqeWritten config state ticket id publication ok).books config) := by
  unfold cqeWritten
  split
  next => exact finish_trade (Passing.refl config state) false
  next jfc _ =>
    split
    next =>
      split
      next => exact finish_trade (Passing.refl config state) false
      next => exact finish_trade (Passing.refl config state) false
      next left _ =>
        have settled : Passing config 0 state (settleCqe state id jfc left) := by
          apply Passing.of_eq <;> rfl
        split
        next => exact moderate_trade settled _
        next => exact finish_trade settled false
    next =>
      split
      next => exact moderate_trade (Passing.refl config state) _
      next =>
        apply finish_trade
        apply Passing.of_eq <;> rfl

theorem consumerRead_trade (config : Config) (limit : Nat) (state : State) (ticket id : Nat)
    (publication : Publication) (ok : Bool) (bytes : Bytes) :
    Trade limit (state.owed config (publicationTokens ticket id publication.call) {ticket})
      ((consumerRead config state ticket id publication ok bytes).books config) := by
  obtain ⟨owing, fewer⟩ := publish_owing config state ticket id publication
    (if ok && bytes.length == 4 then some (load32 bytes 0 &&& indexMask) else none)
  exact .kept (owing.kept fewer)

end Publications

/-! ## Queues -/

theorem processJfcPublications_passing (config : Config) (state : State) (id : Nat) :
    Passing config 0 state (processJfcPublications config state id) := by
  unfold processJfcPublications
  split
  next => exact Passing.refl config state
  next queue found =>
    split
    next => exact Passing.refl config state
    next =>
      refine Passing.then_push ⟨?_, rfl⟩ rfl
      exact setQueue_owing found rfl rfl

theorem leaveJfcPublications_passing (config : Config) (state : State) (id : Nat) :
    Passing config 0 state (leaveJfcPublications state id) := by
  unfold leaveJfcPublications
  split
  next => exact Passing.refl config state
  next queue found =>
    split
    next idle =>
      obtain ⟨stopped, landed, empty⟩ := idle
      refine Passing.then_push ⟨?_, rfl⟩ rfl
      constructor
      · have weightless : tableTotal PublicationQueue.tokens state.jfcPublications =
            tableTotal PublicationQueue.tokens (state.jfcPublications.erase id) := by
          rw [tableTotal_of_lookup PublicationQueue.tokens found]
          simp [PublicationQueue.tokens, empty]
        simp only [State.tokens, weightless, zero_add]
      · rfl
      · rfl
      · rfl
      · funext other
        by_cases same : other = id
        · subst same
          have unloaded : queue.load config = 0 := by
            unfold PublicationQueue.load
            split
            · exact landed
            · simpa using stopped
          simp [State.load, found, unloaded]
        · simp [State.load, AList.lookup_erase_ne same]
      · rfl
    next => exact ⟨setQueue_owing found rfl rfl, rfl⟩

theorem PublicationQueue.load_admitted {queue : PublicationQueue} (rest : List Publication)
    (stopped : config.pipelinedCompletionDma = false → queue.running = false) :
    (queue.admitted config rest).load config = queue.load config + 1 := by
  unfold PublicationQueue.admitted PublicationQueue.load
  cases mode : config.pipelinedCompletionDma with
  | true => simp
  | false => simp [stopped mode]

theorem PublicationQueue.load_released (config : Config) (queue : PublicationQueue) :
    (queue.released config).load config = queue.load config - 1 := by
  unfold PublicationQueue.released PublicationQueue.load
  cases mode : config.pipelinedCompletionDma with
  | true => simp
  | false => cases queue.running <;> simp

theorem PublicationQueue.pending_admitted (config : Config) (queue : PublicationQueue)
    (rest : List Publication) : (queue.admitted config rest).pending = rest := by
  unfold PublicationQueue.admitted
  split <;> rfl

theorem PublicationQueue.pending_released (config : Config) (queue : PublicationQueue) :
    (queue.released config).pending = queue.pending := by
  unfold PublicationQueue.released
  split <;> rfl

/-- The publication that is admitted leaves the queue. -/
theorem tokens_grant (config : Config) {id : Nat} {queue : PublicationQueue} {publication : Publication}
    {rest : List Publication} (found : state.jfcPublications.lookup id = some queue)
    (shape : queue.pending = publication :: rest) :
    {.caller publication.call} + (grant config state id queue publication rest).tokens =
      state.tokens := by
  have moved := State.tokens_setQueue (queue.admitted config rest) found
  have weightless : (([if config.pipelinedCompletionDma then Task.admitJfcPublications id
      else .leaveJfcPublications id]).map Task.tokens).sum = 0 := by
    split <;> rfl
  simp only [PublicationQueue.tokens, PublicationQueue.pending_admitted, shape, List.map_cons,
    List.sum_cons, Publication.tokens] at moved
  rw [add_comm {Token.caller publication.call}, add_assoc] at moved
  unfold grant
  rw [State.tokens_push, weightless, zero_add]
  exact add_left_cancel moved

theorem grant_trade {id : Nat} {queue : PublicationQueue} {publication : Publication}
    {rest : List Publication} (found : state.jfcPublications.lookup id = some queue)
    (shape : queue.pending = publication :: rest)
    (stopped : config.pipelinedCompletionDma = false → queue.running = false)
    (room : state.completionEventSlotsInUse < limit) :
    Trade limit (state.owed config 0 0)
      ((writeCqeNow config (grant config state id queue publication rest) state.tickets id
        publication).books config) := by
  obtain ⟨owing, fewer⟩ := writeCqeNow_owing config
    (grant config state id queue publication rest) state.tickets id publication
  refine .admitted id room ?_ ?_ owing.inUse owing.tickets owing.calls ?_ ?_
  · change (writeCqeNow _ _ _ _ _).tokens = {Token.slot state.tickets} + {Token.queue id} +
      (0 + state.tokens)
    rw [owing.tokens, zero_add, ← tokens_grant config found shape]
    simp only [publicationTokens]
    abel
  · change (writeCqeNow _ _ _ _ _).publishing ≤ {state.tickets} + (0 + state.publishing)
    rw [zero_add]
    exact fewer
  · change (writeCqeNow _ _ _ _ _).load config = _
    rw [owing.load]
    change (state.setQueue id (queue.admitted config rest)).load config = _
    rw [State.load_setQueue, PublicationQueue.load_admitted rest stopped, ← State.load_eq found]
    rfl
  · change (writeCqeNow _ _ _ _ _).trace.filterMap Observation.entry = _
    rw [owing.journal]
    simp [grant, State.owed, State.books, Observation.entry]

theorem admitJfcPublications_trade (config : Config) (state : State) (id : Nat) :
    Trade config.completionEventSlots (state.owed config 0 0)
      ((admitJfcPublications config state id).books config) := by
  have left : Trade config.completionEventSlots (state.owed config 0 0)
      ((state.push [.leaveJfcPublications id]).books config) :=
    (push_passing config state [.leaveJfcPublications id] rfl).trade
  unfold admitJfcPublications
  split
  next => exact (Passing.refl config state).trade
  next queue found =>
    split
    next => exact left
    next publication rest shape =>
      split
      next admissible =>
        obtain ⟨stopped, room, _⟩ := admissible
        apply grant_trade found shape _ room
        intro serial
        simpa [serial] using stopped
      next => exact left

theorem releasePublication_trade (config : Config) (limit : Nat) (state : State) (id : Nat) :
    Trade limit (state.owed config {.queue id} 0)
      ((releasePublication config state id).books config) := by
  unfold releasePublication
  split
  next missing =>
    have pumped : Passing config 0 state (state.push [.pumpCompletionWork]) :=
      (Passing.refl config state).then_push rfl
    refine .releasedQueue id ⟨rfl, ?_, pumped.inUse, pumped.tickets, pumped.calls, rfl,
      pumped.journal⟩ ?_ ?_
    · exact pumped.publishing.le.trans (Multiset.le_add_left _ _)
    · exact congrArg (({Token.queue id} : Multiset Token) + ·)
        (pumped.tokens.trans (zero_add _)).symm
    · have idle : state.load config id = 0 := by simp [State.load, missing]
      change state.load config =
        Function.update (state.load config) id (state.load config id - 1)
      rw [idle, Nat.zero_sub, ← idle, Function.update_eq_self]
  next queue found =>
    have moved := State.tokens_setQueue (queue.released config) found
    have same : (queue.released config).tokens = queue.tokens := by
      unfold PublicationQueue.tokens
      rw [PublicationQueue.pending_released]
    rw [same] at moved
    refine .releasedQueue id ⟨rfl, ?_, rfl, rfl, rfl, rfl, rfl⟩ ?_ ?_
    · exact Multiset.le_add_left _ _
    · change {Token.queue id} + state.tokens = {Token.queue id} + State.tokens _
      rw [State.tokens_push, add_left_cancel moved]
      simp [Task.tokens]
    · change (state.setQueue id (queue.released config)).load config = _
      rw [State.load_setQueue, PublicationQueue.load_released, ← State.load_eq found]
      rfl

theorem releaseCompletionEventSlot_trade (config : Config) (limit : Nat) (state : State)
    (ticket : Nat) :
    Trade limit (state.owed config {.slot ticket} 0)
      ((releaseCompletionEventSlot state ticket).books config) := by
  refine .releasedSlot ticket ⟨rfl, Multiset.le_add_left _ _, rfl, rfl, rfl, rfl, rfl⟩ ?_ rfl ?_
  · change {Token.slot ticket} + state.tokens = {Token.slot ticket} +
      (releaseCompletionEventSlot state ticket).tokens
    unfold releaseCompletionEventSlot
    rw [State.tokens_push]
    exact congrArg ({Token.slot ticket} + ·) (zero_add _).symm
  · simp [releaseCompletionEventSlot, State.owed, State.books, Observation.entry]

theorem complete_trade (config : Config) (limit : Nat) (state : State) (call : Nat) (ok : Bool) :
    Trade limit (state.owed config {.caller call} 0)
      (((state.emit [.completed call ok]).push [.external]).books config) := by
  refine .completed call ⟨rfl, Multiset.le_add_left _ _, rfl, rfl, rfl, rfl, rfl⟩ ?_ ?_
  · change {Token.caller call} + state.tokens = {Token.caller call} + State.tokens _
    rw [State.tokens_push]
    exact congrArg ({Token.caller call} + ·) (zero_add _).symm
  · simp [State.owed, State.books, Observation.entry]

/-! ## The pump -/

theorem pumpTimer_trade (config : Config) (state : State) (id : Nat) (rest : List Nat)
    (room : state.completionEventSlotsInUse < limit) :
    Trade limit (state.owed config 0 0) ((pumpTimer state id rest).books config) := by
  unfold pumpTimer
  split
  next => exact (push_passing config state [.pumpTimers rest] rfl).trade
  next jfc _ =>
    refine .fired room ?_ ?_ rfl rfl rfl rfl ?_
    · change State.tokens _ = {Token.slot state.tickets} + (0 + state.tokens)
      rw [State.tokens_push, zero_add]
      rfl
    · exact (zero_add _).symm
    · simp [State.owed, State.books, Observation.entry]

theorem pumpTimers_trade (config : Config) (state : State) (expired : List Nat) :
    Trade config.completionEventSlots (state.owed config 0 0)
      ((pumpTimers config state expired).books config) := by
  unfold pumpTimers
  split
  next => exact (push_passing config state [.pumpQueues state.rotation] rfl).trade
  next id rest =>
    split
    next => exact (push_passing config state [.pumpQueues state.rotation] rfl).trade
    next room => exact pumpTimer_trade config state id rest (by omega)

theorem pumpCompletionWork_passing (config : Config) (state : State) :
    Passing config 0 state (pumpCompletionWork state) := by
  unfold pumpCompletionWork
  split
  next => apply Passing.of_eq <;> rfl
  next =>
    refine Passing.then_push ?_ rfl
    apply Passing.of_eq <;> rfl

theorem pumpQueues_passing (config : Config) (state : State) (ids : List Nat) :
    Passing config 0 state (pumpQueues state ids) := by
  unfold pumpQueues
  split
  next =>
    split
    next => exact (Passing.refl config state).then_push rfl
    next => apply Passing.of_eq <;> rfl
  next => exact (Passing.refl config state).then_push rfl

theorem processCompletionEvent_passing (config : Config) (state : State) :
    Passing config 0 state (processCompletionEvent state) := by
  unfold processCompletionEvent
  split
  next => exact Passing.refl config state
  next =>
    refine Passing.then_push ?_ rfl
    apply Passing.of_eq <;> rfl

/-! ## Outside parties -/

/-- The queue that `WriteCqe` finds or creates takes over the caller. -/
theorem enqueue_owing (config : Config) (state : State) (id : Nat) (publication : Publication)
    {queue : PublicationQueue} (found : queue = (state.jfcPublications.lookup id).getD {}) :
    Owing config {.caller publication.call} state
      (state.setQueue id { queue with pending := queue.pending ++ [publication] }) where
  tokens := by
    cases present : state.jfcPublications.lookup id with
    | none =>
        have fresh : queue = {} := by simpa [present] using found
        rw [State.tokens_setQueue_new _ present, fresh]
        simp [PublicationQueue.tokens, Publication.tokens]
    | some old =>
        have known : queue = old := by simpa [present] using found
        have moved := State.tokens_setQueue
          { queue with pending := queue.pending ++ [publication] } present
        have grown : PublicationQueue.tokens
            { queue with pending := queue.pending ++ [publication] } =
              old.tokens + {.caller publication.call} := by
          simp [PublicationQueue.tokens, Publication.tokens, known]
        rw [grown, add_assoc] at moved
        exact add_left_cancel moved
  inUse := rfl
  tickets := rfl
  calls := rfl
  load := by
    have loaded : PublicationQueue.load config
        { queue with pending := queue.pending ++ [publication] } = state.load config id := by
      subst found
      cases present : state.jfcPublications.lookup id <;>
        simp [State.load, PublicationQueue.load, present]
    rw [State.load_setQueue, loaded, Function.update_eq_self]
  journal := rfl

theorem writeCqe_trade (config : Config) (limit : Nat) (state : State) (id : Nat) (cqe : Cqe) :
    Trade limit (state.owed config 0 0) ((writeCqe state id cqe).books config) := by
  unfold writeCqe
  simp only
  split
  next =>
    refine .called ⟨rfl, (zero_add _).symm.le, rfl, rfl, rfl, rfl, ?_⟩ ?_ rfl
    · simp [State.books, State.owed, Observation.entry]
    · change State.tokens _ = {Token.caller state.calls} + (0 + state.tokens)
      rw [State.tokens_push, zero_add]
      rfl
  next =>
    have queued := enqueue_owing config state id
      ⟨state.calls, (state.jfcs.lookup id).map Jfc.generation, cqe⟩ rfl
    refine .called ⟨rfl, (zero_add _).symm.le, rfl, rfl, rfl, queued.load, ?_⟩ ?_ rfl
    · simp [State.books, State.owed, Observation.entry]
    · change State.tokens _ = {Token.caller state.calls} + (0 + state.tokens)
      rw [State.tokens_push, zero_add]
      exact (zero_add _).trans queued.tokens

theorem ceqDoorbell_passing (config : Config) (state : State) (value : Nat) :
    Passing config 0 state (ceqDoorbell state value) := by
  unfold ceqDoorbell
  simp only
  split
  next => exact Passing.refl config state
  next =>
    split
    next => exact Passing.refl config state
    next =>
      refine Passing.then_push ?_ rfl
      apply Passing.of_eq <;> rfl

theorem jfcDoorbell_passing (config : Config) (state : State) (value : Nat) :
    Passing config 0 state (jfcDoorbell config state value) := by
  unfold jfcDoorbell
  simp only
  split
  next =>
    refine Passing.then_emit ?_ (by rfl)
    apply Passing.of_eq <;> rfl
  next => exact Passing.refl config state

/-! ## Steps -/

theorem runTask_trade {task : Task} (ran : runTask config state task = some after) :
    Trade config.completionEventSlots (state.owed config task.tokens 0) (after.books config) := by
  cases task with
  | external =>
      obtain rfl := Option.some.inj ran
      exact (Passing.refl config state).trade
  | pumpCompletionWork =>
      obtain rfl := Option.some.inj ran
      exact (pumpCompletionWork_passing config state).trade
  | pumpPass => simp [runTask] at ran
  | pumpTimers expired =>
      obtain rfl := Option.some.inj ran
      exact pumpTimers_trade config state expired
  | pumpQueues ids =>
      obtain rfl := Option.some.inj ran
      exact (pumpQueues_passing config state ids).trade
  | processJfcPublications id =>
      obtain rfl := Option.some.inj ran
      exact (processJfcPublications_passing config state id).trade
  | admitJfcPublications id =>
      obtain rfl := Option.some.inj ran
      exact admitJfcPublications_trade config state id
  | leaveJfcPublications id =>
      obtain rfl := Option.some.inj ran
      exact (leaveJfcPublications_passing config state id).trade
  | releasePublication id =>
      obtain rfl := Option.some.inj ran
      exact releasePublication_trade config _ state id
  | complete call ok =>
      obtain rfl := Option.some.inj ran
      exact complete_trade config _ state call ok
  | emitCompletionEvent ticket id =>
      obtain rfl := Option.some.inj ran
      exact (emitCompletionEvent_passing config state ticket id).trade
  | releaseCompletionEventSlot ticket =>
      obtain rfl := Option.some.inj ran
      exact releaseCompletionEventSlot_trade config _ state ticket
  | processCompletionEvent =>
      obtain rfl := Option.some.inj ran
      exact (processCompletionEvent_passing config state).trade
  | dispatchCompletionEvents =>
      obtain rfl := Option.some.inj ran
      exact (dispatchCompletionEvents_passing config state).trade
  | maybeCompleteJfcDestroy =>
      obtain rfl := Option.some.inj ran
      exact (maybeCompleteJfcDestroy_passing config state).trade
  | maybeCompleteEqDestroy =>
      obtain rfl := Option.some.inj ran
      exact (maybeCompleteEqDestroy_passing config state).trade

theorem runCallback_trade {callback : Callback} (attended : callback.attended state) (ok : Bool)
    (bytes : Bytes) :
    Trade limit (state.owed config callback.tokens callback.publishing)
      ((runCallback config state ok bytes callback).books config) := by
  cases callback with
  | consumerRead ticket id publication =>
      exact consumerRead_trade config limit state ticket id publication ok bytes
  | cqeWritten ticket id publication =>
      exact cqeWritten_trade config limit state ticket id publication ok
  | ceqeWritten ticket ceqId vector => exact (ceqeWritten_passing config attended ok).trade
  | interruptRaised ticket => exact (interruptRaised_passing config state ticket).trade
  | contextRead command => exact (contextRead_applied state command ok bytes).passing.trade
  | queryRead command => exact (queryRead_passing config state command ok bytes).trade
  | queryWritten command => exact (queryWritten_applied state command ok).passing.trade
  | descriptorWritten =>
      apply Passing.trade
      apply Passing.of_eq <;> rfl

variable {before : State}

theorem tokens_of_stack {task : Task} {rest : List Task} (shape : before.stack = task :: rest) :
    before.tokens = task.tokens + (before.withStack rest).tokens := by
  simp only [State.tokens, shape, State.withStack_stack, State.withStack_outstanding,
    State.withStack_completionEvents, State.withStack_jfcPublications, List.map_cons,
    List.sum_cons]
  abel

theorem books_of_stack {task : Task} {rest : List Task} (shape : before.stack = task :: rest) :
    before.books config = (before.withStack rest).owed config task.tokens 0 := by
  simp only [State.books, State.owed, tokens_of_stack shape, zero_add]
  rfl

theorem books_of_outstanding {callback : Callback} {index : Nat}
    (found : before.outstanding[index]? = some callback) :
    before.books config =
      (before.withOutstanding (before.outstanding.eraseIdx index)).owed config callback.tokens
        callback.publishing := by
  have order := perm_cons_eraseIdx found
  have held : before.tokens = callback.tokens +
      (before.withOutstanding (before.outstanding.eraseIdx index)).tokens := by
    simp only [State.tokens, State.withOutstanding_stack, State.withOutstanding_outstanding,
      State.withOutstanding_completionEvents, State.withOutstanding_jfcPublications,
      (order.map Callback.tokens).sum_eq, List.map_cons, List.sum_cons]
    abel
  have awaited : before.publishing = callback.publishing +
      (before.withOutstanding (before.outstanding.eraseIdx index)).publishing := by
    simp only [State.publishing, State.withOutstanding_outstanding,
      (order.map Callback.publishing).sum_eq, List.map_cons, List.sum_cons]
  simp only [State.books, State.owed, held, awaited]
  rfl

theorem environment_trade {event : Event} (acted : environment config before event = some after)
    (attended : ∀ callback ∈ before.outstanding, callback.attended before) :
    Trade limit (before.books config) (after.books config) := by
  have own : before.books config = before.owed config 0 0 := by
    simp [State.books, State.owed]
  cases event with
  | run => simp [environment] at acted
  | beginPass expired => simp [environment] at acted
  | fire index ok bytes =>
      simp only [environment] at acted
      cases found : before.outstanding[index]? with
      | none => simp [found] at acted
      | some callback =>
          simp only [found, Option.some.injEq] at acted
          subst acted
          rw [books_of_outstanding found]
          apply runCallback_trade
          have still := attended callback (List.mem_of_getElem? found)
          cases callback <;> exact still
  | writeCqe id cqe =>
      obtain rfl := Option.some.inj acted
      rw [own]
      exact writeCqe_trade config limit before id cqe
  | mailbox command =>
      simp only [environment] at acted
      split at acted
      next => simp at acted
      next =>
        obtain rfl := Option.some.inj acted
        rw [own]
        apply Passing.trade
        refine Passing.trans ?_ (handleUbaseMailbox_handled config _ command).passing
        apply Passing.of_eq <;> rfl
  | ceqDoorbell value =>
      obtain rfl := Option.some.inj acted
      rw [own]
      exact (ceqDoorbell_passing config before value).trade
  | jfcDoorbell value =>
      obtain rfl := Option.some.inj acted
      rw [own]
      exact (jfcDoorbell_passing config before value).trade
  | advanceTime now =>
      simp only [environment] at acted
      rw [own]
      split at acted
      next =>
        obtain rfl := Option.some.inj acted
        exact (Passing.refl config before).trade
      next =>
        obtain rfl := Option.some.inj acted
        apply Passing.trade
        refine Passing.then_push ?_ rfl
        apply Passing.of_eq <;> rfl

/-- Every step is a trade. -/
theorem step_trade {event : Event} (taken : step config before event = some after)
    (attended : ∀ callback ∈ before.outstanding, callback.attended before) :
    Trade config.completionEventSlots (before.books config) (after.books config) := by
  rcases step_cases taken with ⟨task, rest, shape, ran⟩ | ⟨expired, rest, shape, _, rfl⟩ | acted
  · rw [books_of_stack shape]
    exact runTask_trade ran
  · rw [books_of_stack shape]
    apply Passing.trade
    refine Passing.then_push ?_ rfl
    apply Passing.of_eq <;> rfl
  · exact environment_trade acted attended

end Udma.Cq
