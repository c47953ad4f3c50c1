import Mathlib
import Udma.Collections.Table
import Udma.Cq.Moves

/-!
# What the engine still owes

Every reservation of a completion-event slot, every admitted publication and
every `WriteCqe` call is represented by a token until the slot is released, the
publication queue is told, or the caller is called back.  The tokens are held by
activations, by outstanding callbacks, by queued events and by queued
publications.  `Books` keeps them next to the counters and the journal that the
engine writes, and `Trade` lists everything a step can do to the books.
-/

namespace Udma.Cq

open Udma.Collections

inductive Token where
  | slot (ticket : Nat)
  | queue (id : Nat)
  | caller (call : Nat)
  deriving DecidableEq, Repr

def Task.tokens : Task → Multiset Token
  | .complete call _ => {.caller call}
  | .releasePublication id => {.queue id}
  | .emitCompletionEvent ticket _ => {.slot ticket}
  | .releaseCompletionEventSlot ticket => {.slot ticket}
  | _ => 0

/-- The tokens of an admitted publication. -/
def publicationTokens (ticket id call : Nat) : Multiset Token :=
  {.slot ticket} + {.queue id} + {.caller call}

def Callback.tokens : Callback → Multiset Token
  | .consumerRead ticket id publication => publicationTokens ticket id publication.call
  | .cqeWritten ticket id publication => publicationTokens ticket id publication.call
  | .ceqeWritten ticket _ _ => {.slot ticket}
  | .interruptRaised ticket => {.slot ticket}
  | _ => 0

def CompletionEvent.tokens (event : CompletionEvent) : Multiset Token := {.slot event.ticket}

def Publication.tokens (publication : Publication) : Multiset Token := {.caller publication.call}

def PublicationQueue.tokens (queue : PublicationQueue) : Multiset Token :=
  (queue.pending.map Publication.tokens).sum

def State.tokens (state : State) : Multiset Token :=
  (state.stack.map Task.tokens).sum + (state.outstanding.map Callback.tokens).sum +
    (state.completionEvents.map CompletionEvent.tokens).sum +
    tableTotal PublicationQueue.tokens state.jfcPublications

/-- The reservations whose CQ publication awaits a callback. -/
def Callback.publishing : Callback → Multiset Nat
  | .consumerRead ticket _ _ => {ticket}
  | .cqeWritten ticket _ _ => {ticket}
  | _ => 0

def State.publishing (state : State) : Multiset Nat :=
  (state.outstanding.map Callback.publishing).sum

/-- What the journal records of an observation. -/
inductive Entry where
  | admitted (ticket : Nat)
  | fired (ticket : Nat)
  | notifying (ticket : Nat)
  | released (ticket : Nat)
  | completed (call : Nat)
  deriving DecidableEq, Repr

def Observation.entry : Observation → Option Entry
  | .admitted ticket _ _ => some (.admitted ticket)
  | .timerFired ticket _ => some (.fired ticket)
  | .notifying ticket _ => some (.notifying ticket)
  | .slotReleased ticket => some (.released ticket)
  | .completed call _ => some (.completed call)
  | _ => none

/-- How many admitted publications a queue counts. -/
def PublicationQueue.load (config : Config) (queue : PublicationQueue) : Nat :=
  if config.pipelinedCompletionDma then queue.inFlight else queue.running.toNat

def State.load (config : Config) (state : State) (id : Nat) : Nat :=
  ((state.jfcPublications.lookup id).map (PublicationQueue.load config)).getD 0

structure Books where
  tokens : Multiset Token
  publishing : Multiset Nat
  inUse : Nat
  tickets : Nat
  calls : Nat
  load : Nat → Nat
  journal : List Entry

def State.books (config : Config) (state : State) : Books where
  tokens := state.tokens
  publishing := state.publishing
  inUse := state.completionEventSlotsInUse
  tickets := state.tickets
  calls := state.calls
  load := state.load config
  journal := state.trace.filterMap Observation.entry

/-- The books are the same, but a publication may have left the host. -/
structure Books.Kept (before after : Books) : Prop where
  tokens : after.tokens = before.tokens
  publishing : after.publishing ≤ before.publishing
  inUse : after.inUse = before.inUse
  tickets : after.tickets = before.tickets
  calls : after.calls = before.calls
  load : after.load = before.load
  journal : after.journal = before.journal

/-- What a step does to the books. -/
inductive Trade (limit : Nat) (before after : Books) : Prop where
  | kept : before.Kept after → Trade limit before after
  | called :
      before.Kept
        { after with
          tokens := before.tokens
          calls := before.calls } →
      after.tokens = {.caller before.calls} + before.tokens →
      after.calls = before.calls + 1 → Trade limit before after
  | admitted (id : Nat) :
      before.inUse < limit →
      after.tokens = {.slot before.tickets} + {.queue id} + before.tokens →
      after.publishing ≤ {before.tickets} + before.publishing →
      after.inUse = (before.inUse + 1) % 2 ^ 32 →
      after.tickets = before.tickets + 1 →
      after.calls = before.calls →
      after.load = Function.update before.load id (before.load id + 1) →
      after.journal = before.journal ++ [.admitted before.tickets] →
      Trade limit before after
  | fired :
      before.inUse < limit →
      after.tokens = {.slot before.tickets} + before.tokens →
      after.publishing = before.publishing →
      after.inUse = (before.inUse + 1) % 2 ^ 32 →
      after.tickets = before.tickets + 1 →
      after.calls = before.calls →
      after.load = before.load →
      after.journal = before.journal ++ [.fired before.tickets] →
      Trade limit before after
  | notifying (ticket : Nat) :
      before.Kept { after with journal := before.journal } →
      before.publishing = {ticket} + after.publishing →
      after.journal = before.journal ++ [.notifying ticket] →
      Trade limit before after
  | completed (call : Nat) :
      before.Kept
        { after with
          tokens := before.tokens
          journal := before.journal } →
      before.tokens = {.caller call} + after.tokens →
      after.journal = before.journal ++ [.completed call] →
      Trade limit before after
  | releasedQueue (id : Nat) :
      before.Kept
        { after with
          tokens := before.tokens
          load := before.load } →
      before.tokens = {.queue id} + after.tokens →
      after.load = Function.update before.load id (before.load id - 1) →
      Trade limit before after
  | releasedSlot (ticket : Nat) :
      before.Kept
        { after with
          tokens := before.tokens
          inUse := before.inUse
          journal := before.journal } →
      before.tokens = {.slot ticket} + after.tokens →
      after.inUse = decrement32 before.inUse →
      after.journal = before.journal ++ [.released ticket] →
      Trade limit before after

/-! ## The publication functions -/

section Publication

variable {config : Config} {state after : State} {ticket id call : Nat}

/-- Code that takes over tokens, which are then held by activations and callbacks. -/
structure Owing (config : Config) (tokens : Multiset Token) (state after : State) : Prop where
  tokens : after.tokens = tokens + state.tokens
  inUse : after.completionEventSlotsInUse = state.completionEventSlotsInUse
  tickets : after.tickets = state.tickets
  calls : after.calls = state.calls
  load : after.load config = state.load config
  journal : after.trace.filterMap Observation.entry = state.trace.filterMap Observation.entry

@[simp]
theorem State.tokens_push (state : State) (tasks : List Task) :
    (state.push tasks).tokens = (tasks.map Task.tokens).sum + state.tokens := by
  simp only [State.tokens, State.push_stack, State.push_outstanding, State.push_completionEvents,
    State.push_jfcPublications, List.map_append, List.sum_append]
  abel

@[simp]
theorem State.tokens_call (state : State) (callback : Callback) :
    (state.call callback).tokens = callback.tokens + state.tokens := by
  simp only [State.tokens, State.call_stack, State.call_outstanding, State.call_completionEvents,
    State.call_jfcPublications, List.map_append, List.sum_append, List.map_cons, List.sum_cons,
    Task.tokens, List.map_nil, List.sum_nil]
  abel

@[simp]
theorem State.publishing_call (state : State) (callback : Callback) :
    (state.call callback).publishing = callback.publishing + state.publishing := by
  simp only [State.publishing, State.call_outstanding, List.map_append, List.sum_append,
    List.map_cons, List.map_nil, List.sum_cons, List.sum_nil]
  abel

@[simp]
theorem State.tokens_emit (state : State) (observations : List Observation) :
    (state.emit observations).tokens = state.tokens := rfl

@[simp]
theorem State.tokens_setJfc (state : State) (id : Nat) (jfc : Jfc) :
    (state.setJfc id jfc).tokens = state.tokens := rfl

theorem finish_tokens (ticket id call : Nat) (ok : Bool) :
    ((finish ticket id call ok).map Task.tokens).sum = publicationTokens ticket id call := by
  simp only [finish, publicationTokens, List.map_cons, List.map_nil, List.sum_cons, List.sum_nil,
    Task.tokens]
  abel

theorem owing_finish (state : State) (ticket id call : Nat) (ok : Bool) :
    Owing config (publicationTokens ticket id call) state
      (state.push (finish ticket id call ok)) := by
  constructor <;> first | rfl | simp [finish_tokens]

/-- Observations that the journal does not record. -/
theorem Owing.then_emit {tokens : Multiset Token} {observations : List Observation}
    (owing : Owing config tokens state after)
    (silent : observations.filterMap Observation.entry = []) :
    Owing config tokens state (after.emit observations) where
  tokens := owing.tokens
  inUse := owing.inUse
  tickets := owing.tickets
  calls := owing.calls
  load := owing.load
  journal := by
    have unchanged := owing.journal
    simp only [State.emit_trace, List.filterMap_append, silent, List.append_nil, unchanged]

/-- A host call that takes over the tokens, after a change outside the books. -/
theorem Owing.then_call {callback : Callback} {tokens : Multiset Token}
    (same : Owing config 0 state after) (held : callback.tokens = tokens) :
    Owing config tokens state (after.call callback) where
  tokens := by rw [State.tokens_call, held, same.tokens, zero_add]
  inUse := same.inUse
  tickets := same.tickets
  calls := same.calls
  load := same.load
  journal := same.journal

theorem reserveCqe_owing (config : Config) (state : State) (id : Nat) (jfc : Jfc)
    (consumer : Nat) : Owing config 0 state (reserveCqe config state id jfc consumer) := by
  unfold reserveCqe
  split <;> constructor <;> first | rfl | exact (zero_add _).symm

theorem publish_owing (config : Config) (state : State) (ticket id : Nat)
    (publication : Publication) (consumer : Option Nat) :
    Owing config (publicationTokens ticket id publication.call) state
        (publish config state ticket id publication consumer) ∧
      (publish config state ticket id publication consumer).publishing ≤
        {ticket} + state.publishing := by
  unfold publish
  split
  next jfc found =>
    split
    next => exact ⟨owing_finish state ticket id publication.call false, Multiset.le_add_left _ _⟩
    next =>
      constructor
      · refine Owing.then_call (Owing.then_emit ?_ (by rfl)) (by rfl)
        exact reserveCqe_owing config state id jfc _
      · rw [State.publishing_call]
        unfold reserveCqe
        split <;> exact le_rfl
  next => exact ⟨owing_finish state ticket id publication.call false, Multiset.le_add_left _ _⟩

theorem writeCqeNow_owing (config : Config) (state : State) (ticket id : Nat)
    (publication : Publication) :
    Owing config (publicationTokens ticket id publication.call) state
        (writeCqeNow config state ticket id publication) ∧
      (writeCqeNow config state ticket id publication).publishing ≤
        {ticket} + state.publishing := by
  unfold writeCqeNow
  split
  next => exact ⟨owing_finish state ticket id publication.call false, Multiset.le_add_left _ _⟩
  next =>
    split
    next => exact publish_owing config state ticket id publication _
    next =>
      constructor
      · constructor <;> first | rfl | exact State.tokens_call _ _
      · exact (State.publishing_call state _).le

end Publication

/-! ## Queues and commands -/

section Quiet

variable {config : Config} {state changed after : State} {id : Nat}

theorem Owing.refl (config : Config) (state : State) : Owing config 0 state state where
  tokens := (zero_add _).symm
  inUse := rfl
  tickets := rfl
  calls := rfl
  load := rfl
  journal := rfl

/-- Code that takes over the tokens, after a change outside the books. -/
theorem Owing.then_push {tokens : Multiset Token} {tasks : List Task}
    (same : Owing config 0 state changed) (held : (tasks.map Task.tokens).sum = tokens) :
    Owing config tokens state (changed.push tasks) where
  tokens := by rw [State.tokens_push, held, same.tokens, zero_add]
  inUse := same.inUse
  tickets := same.tickets
  calls := same.calls
  load := same.load
  journal := same.journal

/-- A queue is replaced: its publications change hands. -/
theorem State.tokens_setQueue {old : PublicationQueue} (new : PublicationQueue)
    (found : state.jfcPublications.lookup id = some old) :
    old.tokens + (state.setQueue id new).tokens = new.tokens + state.tokens := by
  simp only [State.tokens, State.setQueue_stack, State.setQueue_outstanding,
    State.setQueue_completionEvents, State.setQueue_jfcPublications, tableTotal_insert,
    tableTotal_of_lookup PublicationQueue.tokens found]
  abel

theorem State.tokens_setQueue_new (new : PublicationQueue)
    (missing : state.jfcPublications.lookup id = none) :
    (state.setQueue id new).tokens = new.tokens + state.tokens := by
  simp only [State.tokens, State.setQueue_stack, State.setQueue_outstanding,
    State.setQueue_completionEvents, State.setQueue_jfcPublications, tableTotal_insert,
    tableTotal_erase_of_none PublicationQueue.tokens missing]
  abel

theorem State.load_setQueue (config : Config) (state : State) (id : Nat)
    (new : PublicationQueue) :
    (state.setQueue id new).load config =
      Function.update (state.load config) id (new.load config) := by
  funext other
  by_cases same : other = id
  · subst same
    simp [State.load]
  · simp [State.load, AList.lookup_insert_ne same, Function.update_of_ne same]

theorem State.load_eq {queue : PublicationQueue}
    (found : state.jfcPublications.lookup id = some queue) :
    state.load config id = queue.load config := by
  simp [State.load, found]

/-- A queue rewritten with the same publications and the same load. -/
theorem setQueue_owing {old new : PublicationQueue}
    (found : state.jfcPublications.lookup id = some old) (pending : new.pending = old.pending)
    (loaded : new.load config = old.load config) :
    Owing config 0 state (state.setQueue id new) where
  tokens := by
    have moved := State.tokens_setQueue new found
    have same : new.tokens = old.tokens := by
      unfold PublicationQueue.tokens
      rw [pending]
    rw [same] at moved
    rw [zero_add, add_left_cancel moved]
  inUse := rfl
  tickets := rfl
  calls := rfl
  load := by
    rw [State.load_setQueue, loaded, ← State.load_eq found, Function.update_eq_self]
  journal := rfl

/-- Code that takes over tokens without a call for a publication. -/
structure Passing (config : Config) (tokens : Multiset Token) (state after : State) : Prop
    extends owing : Owing config tokens state after where
  publishing : after.publishing = state.publishing

theorem Passing.refl (config : Config) (state : State) : Passing config 0 state state :=
  ⟨Owing.refl config state, rfl⟩

theorem Passing.then_push {tokens : Multiset Token} {tasks : List Task}
    (same : Passing config 0 state changed) (held : (tasks.map Task.tokens).sum = tokens) :
    Passing config tokens state (changed.push tasks) :=
  ⟨same.owing.then_push held, same.publishing⟩

/-- Code that holds no tokens. -/
theorem Passing.then_schedule {tokens : Multiset Token} {tasks : List Task}
    (passing : Passing config tokens state changed)
    (weightless : (tasks.map Task.tokens).sum = 0) :
    Passing config tokens state (changed.push tasks) where
  tokens := by rw [State.tokens_push, weightless, zero_add, passing.tokens]
  inUse := passing.inUse
  tickets := passing.tickets
  calls := passing.calls
  load := passing.load
  journal := passing.journal
  publishing := passing.publishing

theorem Passing.then_call {tokens : Multiset Token} {callback : Callback}
    (same : Passing config 0 state changed) (held : callback.tokens = tokens)
    (silent : callback.publishing = 0) :
    Passing config tokens state (changed.call callback) :=
  ⟨same.owing.then_call held, by rw [State.publishing_call, silent, zero_add, same.publishing]⟩

theorem Passing.then_emit {tokens : Multiset Token} {observations : List Observation}
    (passing : Passing config tokens state changed)
    (silent : observations.filterMap Observation.entry = []) :
    Passing config tokens state (changed.emit observations) :=
  ⟨passing.owing.then_emit silent, passing.publishing⟩

theorem Passing.then_writeBack (same : Passing config 0 state changed) (command : Command)
    (status : Nat) : Passing config 0 state (finishUbaseDescriptor changed command status) :=
  Passing.then_call (Passing.then_emit same (by rfl)) (by rfl) (by rfl)

theorem Issued.passing (issued : Issued state after) : Passing config 0 state after := by
  cases issued with
  | read callback own plain =>
      cases callback with
      | contextRead _ | queryRead _ | queryWritten _ | descriptorWritten =>
          exact (Passing.refl config state).then_call rfl rfl
      | _ => simp [Callback.mailbox] at own
  | writeBack command status => exact (Passing.refl config state).then_writeBack command status

/-- A change to fields outside the books. -/
theorem Passing.of_eq (stack : changed.stack = state.stack)
    (outstanding : changed.outstanding = state.outstanding)
    (events : changed.completionEvents = state.completionEvents)
    (queues : changed.jfcPublications = state.jfcPublications)
    (inUse : changed.completionEventSlotsInUse = state.completionEventSlotsInUse)
    (tickets : changed.tickets = state.tickets) (calls : changed.calls = state.calls)
    (trace : changed.trace = state.trace) : Passing config 0 state changed where
  tokens := by simp only [State.tokens, stack, outstanding, events, queues, zero_add]
  inUse := inUse
  tickets := tickets
  calls := calls
  load := by
    funext other
    simp only [State.load, queues]
  journal := by rw [trace]
  publishing := by simp only [State.publishing, outstanding]

theorem Applied.passing (applied : Applied state after) : Passing config 0 state after := by
  cases applied with
  | issued issued => exact issued.passing
  | installedCeq command ceq =>
      apply Passing.then_writeBack
      apply Passing.of_eq <;> rfl
  | installedJfc command context jfc isCreate decoded =>
      apply Passing.then_writeBack
      apply Passing.of_eq <;> rfl
  | modified command context jfc found =>
      apply Passing.then_writeBack
      apply Passing.of_eq <;> rfl

theorem Handled.passing {command : Command} (handled : Handled config state command after) :
    Passing config 0 state after := by
  cases handled with
  | issued issued => exact issued.passing
  | creating isCreate absent => exact (Passing.refl config state).then_call rfl rfl
  | creatingCeq isCreate idle => exact (Passing.refl config state).then_call rfl rfl
  | deferredCeq busy => apply Passing.of_eq <;> rfl
  | deferredJfc busy => apply Passing.of_eq <;> rfl
  | erasedCeq idle =>
      apply Passing.then_writeBack
      apply Passing.of_eq <;> rfl
  | erasedJfc idle =>
      apply Passing.then_writeBack
      apply Passing.of_eq <;> rfl

theorem queryRead_passing (config : Config) (state : State) (command : Command) (ok : Bool)
    (bytes : Udma.Abi.Bytes) : Passing config 0 state (queryRead state command ok bytes) := by
  rcases queryRead_cases state command ok bytes with same | ⟨jfc, found, _, _, same⟩
  · rw [same]
    exact (Passing.refl config state).then_writeBack command 5
  · rw [same]
    refine Passing.then_call ?_ rfl rfl
    apply Passing.of_eq <;> rfl

theorem Passing.trans {middle : State} {tokens : Multiset Token}
    (first : Passing config 0 state middle) (second : Passing config tokens middle after) :
    Passing config tokens state after where
  tokens := by rw [second.tokens, first.tokens, zero_add]
  inUse := second.inUse.trans first.inUse
  tickets := second.tickets.trans first.tickets
  calls := second.calls.trans first.calls
  load := second.load.trans first.load
  journal := second.journal.trans first.journal
  publishing := second.publishing.trans first.publishing

theorem maybeCompleteJfcDestroy_passing (config : Config) (state : State) :
    Passing config 0 state (maybeCompleteJfcDestroy config state) := by
  unfold maybeCompleteJfcDestroy
  split
  next => exact Passing.refl config state
  next command _ =>
    split
    next => exact Passing.refl config state
    next =>
      refine Passing.trans ?_ (handleUbaseMailbox_handled config _ command).passing
      apply Passing.of_eq <;> rfl

theorem maybeCompleteEqDestroy_passing (config : Config) (state : State) :
    Passing config 0 state (maybeCompleteEqDestroy config state) := by
  unfold maybeCompleteEqDestroy
  split
  next => exact Passing.refl config state
  next command _ =>
    split
    next => exact Passing.refl config state
    next =>
      refine Passing.trans ?_ (handleUbaseMailbox_handled config _ command).passing
      apply Passing.of_eq <;> rfl

end Quiet

end Udma.Cq
