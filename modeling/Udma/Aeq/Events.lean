import Mathlib
import Udma.Aeq.Ring
import Udma.Collections.Withdraw
import Udma.Transition.Run

/-!
# Events in a run

The invariant of the machine.  One event is in flight, and what waits behind it is taken up when
it is through; a destroy command that waits is taken up when nothing waits any more.  Between the
two the state is `Ready`, and `ProcessMailboxEvent` makes it `Sound` again.
-/

namespace Udma.Aeq

open Udma.Abi Udma.Collections Udma.Transition
open Udma.Control (Job After)

/-! ## Callbacks -/

/-- The event in flight. -/
def Callback.event : Callback → Option Pending
  | .eventWritten pending _ _ => some pending
  | .interruptRaised _ pending => some pending
  | _ => none

/-- The event that is stored, and whose interrupt is being raised. -/
def Callback.stored : Callback → Option Pending
  | .interruptRaised _ pending => some pending
  | _ => none

/-- The command queue waits for the callback. -/
def Callback.command : Callback → Bool
  | .contextRead _ => true
  | .recordWritten _ _ => true
  | _ => false

namespace State

variable (state : State)

def flying : List Pending := state.outstanding.filterMap Callback.event

def raising : List Pending := state.outstanding.filterMap Callback.stored

/-- What the command queue waits for. -/
def holders : Nat :=
  state.outstanding.countP Callback.command + state.pendingEqDestroy.toList.length +
    state.deferredDestroy.toList.length

end State

/-! ## The invariant -/

/-- What also holds while an event has just been through. -/
structure Kept (held : Nat) (state : State) : Prop where
  numbers : state.emitted.map Pending.number = List.range state.emitted.length
  holders : state.holders = held
  destroy : ∀ job ∈ state.pendingEqDestroy, job.mailbox = .destroy .aeq ∧ job.tag = 0
  formed : state.queue.Formed
  produced : state.queue.producer = state.published.length % 2 ^ 32
  ring : state.Holds
  created : state.created ≤ state.completed.length
  order : state.published.Sublist
    ((state.completed.map Prod.fst).drop state.created ++ state.raising)
  told : ∀ done ∈ state.completed.drop state.created,
    done.2 = true → done.1 ∈ state.published

/-- Nothing is in flight, and `waiting` is to be taken up. -/
structure Ready (held : Nat) (waiting : List Pending) (state : State) : Prop
    extends Kept held state where
  idle : state.aeqInFlight = 0
  landed : state.flying = []
  row : state.emitted = state.completed.map Prod.fst ++ waiting
  unread : waiting ≠ [] → ∀ job, Callback.contextRead job ∉ state.outstanding

structure Sound (held : Nat) (state : State) : Prop extends Kept held state where
  row : state.emitted = state.completed.map Prod.fst ++ state.flying ++ state.mailboxEvents
  flight : state.flying.length = state.aeqInFlight
  single : state.aeqInFlight ≤ 1
  waits : state.mailboxEvents ≠ [] → state.aeqInFlight = 1
  draining : state.pendingEqDestroy.isSome → state.aeqInFlight = 1
  reading : ∀ job, Callback.contextRead job ∈ state.outstanding → state.aeqInFlight = 0
  writes : ∀ pending address bytes,
    Callback.eventWritten pending address bytes ∈ state.outstanding →
      state.queue.usable = true ∧ address = state.queue.address state.queue.slot ∧
        bytes = eventImage (state.queue.producer &&& state.queue.depth == 0) pending.sequence
  stored : ∀ vector pending, Callback.interruptRaised vector pending ∈ state.outstanding →
    state.queue.usable = true ∧ pending ∈ state.published

theorem eventless_of_command {callback : Callback} (command : callback.command = true) :
    callback.event = none ∧ callback.stored = none := by
  cases callback with
  | contextRead job => exact ⟨rfl, rfl⟩
  | recordWritten status after => exact ⟨rfl, rfl⟩
  | eventWritten pending address bytes => cases command
  | interruptRaised vector pending => cases command

theorem raising_sublist (state : State) : state.raising.Sublist state.flying := by
  rw [State.raising, State.flying]
  induction state.outstanding with
  | nil => exact List.Sublist.refl _
  | cons callback rest inductionHypothesis =>
      cases callback with
      | contextRead job => exact inductionHypothesis
      | recordWritten status after => exact inductionHypothesis
      | eventWritten pending address bytes => exact inductionHypothesis.cons _
      | interruptRaised vector pending => exact inductionHypothesis.cons_cons _

theorem raising_of_landed {state : State} (landed : state.flying = []) : state.raising = [] :=
  List.sublist_nil.mp (landed ▸ raising_sublist state)

section

variable {published raising : List Pending} {completed : List (Pending × Bool)} {created : Nat}
  {pending : Pending} {ok : Bool}

/-- The completion of an event that is being raised, or of one that is not stored. -/
theorem order_complete {after : List Pending} (inside : created ≤ completed.length)
    (order : published.Sublist ((completed.map Prod.fst).drop created ++ raising))
    (through : raising.Sublist [pending]) (landed : after = []) :
    published.Sublist (((completed ++ [(pending, ok)]).map Prod.fst).drop created ++ after) := by
  rw [landed, List.append_nil, List.map_append,
    List.drop_append_of_le_length (by rwa [List.length_map])]
  exact order.trans (through.append_left _)

theorem told_complete (inside : created ≤ completed.length)
    (told : ∀ done ∈ completed.drop created, done.2 = true → done.1 ∈ published)
    (stored : ok = true → pending ∈ published) :
    ∀ done ∈ (completed ++ [(pending, ok)]).drop created,
      done.2 = true → done.1 ∈ published := by
  rw [List.drop_append_of_le_length inside]
  intro done listed
  rcases List.mem_append.mp listed with earlier | new
  · exact told done earlier
  · rw [List.mem_singleton.mp new]
    exact stored

end

variable {held : Nat} {waiting : List Pending} {state : State}

namespace Sound

/-- Nothing is in flight, so nothing waits. -/
theorem idle (sound : Sound held state) (free : state.aeqInFlight = 0) :
    state.flying = [] ∧ state.mailboxEvents = [] ∧ state.pendingEqDestroy = none := by
  refine ⟨?_, ?_, ?_⟩
  · rw [← List.length_eq_zero_iff, sound.flight, free]
  · by_contra waits
    have := sound.waits waits
    omega
  · cases draining : state.pendingEqDestroy with
    | none => rfl
    | some job =>
        have := sound.draining (by simp [draining])
        omega

/-- Counters and the flag of the command queue do not matter. -/
theorem aside (sound : Sound held state) (errors source : Nat) (busy : Bool) :
    Sound held { state with
      ubaseErrors := errors, ubaseCommandSource := source, ubaseBusy := busy } where
  numbers := sound.numbers
  holders := sound.holders
  destroy := sound.destroy
  formed := sound.formed
  produced := sound.produced
  ring := sound.ring
  created := sound.created
  order := sound.order
  told := sound.told
  row := sound.row
  flight := sound.flight
  single := sound.single
  waits := sound.waits
  draining := sound.draining
  reading := sound.reading
  writes := sound.writes
  stored := sound.stored

/-- The command queue waits for one more callback. -/
theorem await (sound : Sound held state) {callback : Callback} (command : callback.command = true)
    (reads : ∀ job, callback = .contextRead job → state.aeqInFlight = 0) :
    Sound (held + 1) (state.call callback) := by
  have eventless := eventless_of_command command
  have flying : (state.call callback).flying = state.flying := by
    simp [State.flying, State.call, eventless.1]
  have raising : (state.call callback).raising = state.raising := by
    simp [State.raising, State.call, eventless.2]
  have listed {other : Callback} (event : other.event.isSome)
      (here : other ∈ (state.call callback).outstanding) : other ∈ state.outstanding := by
    rcases List.mem_append.mp here with earlier | new
    · exact earlier
    · rw [List.mem_singleton.mp new, eventless.1] at event
      cases event
  exact
    { numbers := sound.numbers
      holders := by
        rw [← sound.holders]
        simp [State.holders, State.call, command]
        omega
      destroy := sound.destroy
      formed := sound.formed
      produced := sound.produced
      ring := sound.ring
      created := sound.created
      order := raising ▸ sound.order
      told := sound.told
      row := flying ▸ sound.row
      flight := flying ▸ sound.flight
      single := sound.single
      waits := sound.waits
      draining := sound.draining
      reading := by
        intro job here
        rcases List.mem_append.mp here with earlier | new
        · exact sound.reading job earlier
        · exact reads job (List.mem_singleton.mp new).symm
      writes := fun pending address bytes here => sound.writes _ _ _ (listed rfl here)
      stored := fun vector pending here => sound.stored _ _ (listed rfl here) }

/-- The answer to a command is written. -/
theorem finish (sound : Sound held state) (status : Nat) (after : After) :
    Sound (held + 1) (state.finishUbaseDescriptor status after) :=
  sound.await rfl (by simp)

theorem reject (sound : Sound held state) (status : Nat) :
    Sound (held + 1) (state.rejectUbase status) :=
  (sound.aside (state.ubaseErrors + 1) state.ubaseCommandSource state.ubaseBusy).finish status
    .nothing

/-- The queue is replaced while nothing is in flight. -/
theorem install (sound : Sound held state) (free : state.aeqInFlight = 0) {queue : Queue}
    (formed : queue.Formed) (start : queue.producer = 0) : Sound held (state.install queue) := by
  obtain ⟨landed, _, _⟩ := sound.idle free
  exact
    { numbers := sound.numbers
      holders := sound.holders
      destroy := sound.destroy
      formed := formed
      produced := start
      ring := state.holds_install queue
      created := le_rfl
      order := List.nil_sublist _
      told := by simp [State.install]
      row := sound.row
      flight := sound.flight
      single := sound.single
      waits := sound.waits
      draining := sound.draining
      reading := sound.reading
      writes := by
        intro pending address bytes here
        have flies : pending ∈ state.flying := List.mem_filterMap.mpr ⟨_, here, rfl⟩
        simp [landed] at flies
      stored := by
        intro vector pending here
        have flies : pending ∈ state.flying := List.mem_filterMap.mpr ⟨_, here, rfl⟩
        simp [landed] at flies }

theorem busy_iff (sound : Sound held state) : state.busy = true ↔ state.aeqInFlight = 1 := by
  have single := sound.single
  have waits := sound.waits
  simp only [State.busy, Bool.or_eq_true, bne_iff_ne, Bool.not_eq_true',
    List.isEmpty_eq_false_iff]
  constructor
  · rintro (flies | waiting)
    · omega
    · exact waits waiting
  · intro flies
    exact .inl (by omega)

/-- A command for another resource waits. -/
theorem defer (sound : Sound held state) (free : state.deferredDestroy = none) (job : Job) :
    Sound (held + 1) { state with deferredDestroy := some job } :=
  { sound with
    holders := by
      rw [← sound.holders]
      simp [State.holders, free] }

theorem finishOther (sound : Sound held state) (job : Job) (status : Nat) :
    Sound (held + 1) (state.finishOther job status) := by
  unfold State.finishOther
  split
  next => exact sound.finish 0 job.mailboxEvent
  next => exact sound.reject status

/-- A command is taken up; for one more thing the command queue waits then. -/
theorem handle (sound : Sound held state) (alone : state.pendingEqDestroy = none) (job : Job)
    (status : Nat) {waits : Bool} (free : waits = true → state.deferredDestroy = none) :
    Sound (held + 1) (state.handleUbaseMailbox job status waits) := by
  have idle (unbusy : ¬ state.busy = true) : state.aeqInFlight = 0 := by
    have := sound.single
    rw [sound.busy_iff] at unbusy
    omega
  unfold State.handleUbaseMailbox
  split
  next =>
    split
    next => exact sound.reject 95
    next =>
      split
      next => exact sound.reject 16
      next unbusy =>
        split
        next => exact sound.reject 22
        next => exact sound.await rfl fun _ _ => idle unbusy
  next command =>
    split
    next => exact sound.reject 95
    next official =>
      split
      next busy =>
        exact
          { numbers := sound.numbers
            holders := by
              rw [← sound.holders]
              simp [State.holders, alone]
              omega
            destroy := by
              intro other same
              obtain rfl := Option.mem_some_iff.mp same
              exact ⟨command, by simpa using official⟩
            formed := sound.formed
            produced := sound.produced
            ring := sound.ring
            created := sound.created
            order := sound.order
            told := sound.told
            row := sound.row
            flight := sound.flight
            single := sound.single
            waits := sound.waits
            draining := fun _ => sound.busy_iff.mp busy
            reading := sound.reading
            writes := sound.writes
            stored := sound.stored }
      next unbusy =>
        exact (sound.install (idle unbusy) (Queue.formed_cleared _) rfl).finish 0 job.mailboxEvent
  next =>
    split
    next busy => exact sound.defer (free busy) job
    next => exact sound.finishOther job status
  next => exact sound.finishOther job status

end Sound

/-! ## Taking up what waits -/

namespace Ready

/-- Nothing waits any more, the destroy command apart. -/
theorem settle (ready : Ready held [] state) :
    Sound (held - state.pendingEqDestroy.toList.length)
      { state with mailboxEvents := [], pendingEqDestroy := none } where
  numbers := ready.numbers
  holders := by
    have holders := ready.holders
    simp only [State.holders] at holders ⊢
    simp only [Option.toList_none, List.length_nil]
    omega
  destroy := by simp
  formed := ready.formed
  produced := ready.produced
  ring := ready.ring
  created := ready.created
  order := ready.order
  told := ready.told
  row := by
    rw [List.append_nil]
    exact ready.row.trans (by rw [ready.landed.symm]; rfl)
  flight := by
    rw [ready.idle]
    exact congrArg List.length ready.landed
  single := by simp [ready.idle]
  waits := by simp
  draining := by simp
  reading := fun _ _ => ready.idle
  writes := by
    intro pending address bytes here
    have flies : pending ∈ state.flying := List.mem_filterMap.mpr ⟨_, here, rfl⟩
    simp [ready.landed] at flies
  stored := by
    intro vector pending here
    have flies : pending ∈ state.flying := List.mem_filterMap.mpr ⟨_, here, rfl⟩
    simp [ready.landed] at flies

/-- An event that cannot be written fails. -/
theorem complete {pending : Pending} (ready : Ready held (pending :: waiting) state) :
    Ready held waiting (state.complete pending false) where
  numbers := ready.numbers
  holders := ready.holders
  destroy := ready.destroy
  formed := ready.formed
  produced := ready.produced
  ring := ready.ring
  created := by
    rw [State.complete, List.length_append]
    exact ready.created.trans (Nat.le_add_right _ _)
  order := order_complete ready.created ready.order (by simp [raising_of_landed ready.landed])
    (show (state.complete pending false).raising = [] from raising_of_landed ready.landed)
  told := told_complete ready.created ready.told (by simp)
  idle := ready.idle
  landed := ready.landed
  row := by
    rw [State.complete, ready.row]
    simp
  unread := fun _ => ready.unread (List.cons_ne_nil _ _)

/-- The next event is written. -/
theorem issue {pending : Pending} (ready : Ready held (pending :: waiting) state)
    (usable : state.queue.usable = true) :
    Sound held (State.call { state with
      mailboxEvents := waiting
      aeqInFlight := state.aeqInFlight + 1 }
      (.eventWritten pending (state.queue.address state.queue.slot)
        (eventImage (state.queue.producer &&& state.queue.depth == 0) pending.sequence))) := by
  have landed := ready.landed
  have flies {other : Callback} (event : other.event.isSome) : other ∉ state.outstanding := by
    intro here
    obtain ⟨flying, same⟩ := Option.isSome_iff_exists.mp event
    have listed : flying ∈ state.flying := List.mem_filterMap.mpr ⟨_, here, same⟩
    simp [landed] at listed
  have row : ∀ callback : Callback, callback.event = some pending →
      (State.call { state with
        mailboxEvents := waiting
        aeqInFlight := state.aeqInFlight + 1 } callback).flying = [pending] := by
    intro callback about
    rw [State.flying] at landed
    simp [State.flying, State.call, landed, about]
  have raising := raising_of_landed landed
  exact
    { numbers := ready.numbers
      holders := by
        rw [← ready.holders]
        simp [State.holders, State.call, Callback.command]
      destroy := ready.destroy
      formed := ready.formed
      produced := ready.produced
      ring := ready.ring
      created := ready.created
      order := by
        have order := ready.order
        rw [State.raising] at raising order
        simpa [State.call, State.raising, List.filterMap_cons, raising, Callback.stored] using order
      told := ready.told
      row := by
        rw [row _ rfl]
        exact ready.row.trans (by simp [State.call])
      flight := by
        rw [row _ rfl]
        simp [State.call, ready.idle]
      single := by simp [State.call, ready.idle]
      waits := fun _ => by simp [State.call, ready.idle]
      draining := fun _ => by simp [State.call, ready.idle]
      reading := by
        intro job here
        rcases List.mem_append.mp here with earlier | new
        · exact absurd earlier (ready.unread (List.cons_ne_nil _ _) job)
        · cases List.mem_singleton.mp new
      writes := by
        intro other address bytes here
        rcases List.mem_append.mp here with earlier | new
        · exact absurd earlier (flies rfl)
        · cases List.mem_singleton.mp new
          exact ⟨usable, rfl, rfl⟩
      stored := by
        intro vector other here
        rcases List.mem_append.mp here with earlier | new
        · exact absurd earlier (flies rfl)
        · cases List.mem_singleton.mp new }

/-- Events are taken up until one can be written; a destroy command, once none waits. -/
theorem process (ready : Ready held waiting state) : Sound held (state.processEvents waiting) := by
  induction waiting generalizing state with
  | nil =>
      have settled := ready.settle
      rw [State.processEvents, State.maybeCompleteEqDestroy]
      cases draining : state.pendingEqDestroy with
      | none =>
          rw [draining] at settled
          simpa [draining] using settled
      | some job =>
          have one : held - 1 + 1 = held := by
            have holders := ready.holders
            rw [State.holders, draining] at holders
            simp at holders
            omega
          rw [draining] at settled
          have handled : Sound _ (State.handleUbaseMailbox _ job 0 false) :=
            settled.handle rfl job 0 fun waits => absurd waits Bool.false_ne_true
          simpa [State.busy, ready.idle, one] using handled
  | cons pending rest inductionHypothesis =>
      rw [State.processEvents]
      split
      next usable => exact ready.issue usable
      next => exact inductionHypothesis ready.complete

end Ready

namespace Sound

/-- Nothing else takes place while the command queue waits for nothing. -/
theorem alone (sound : Sound 0 state) :
    state.pendingEqDestroy = none ∧ state.deferredDestroy = none ∧
      ∀ job, Callback.contextRead job ∉ state.outstanding := by
  have holders := sound.holders
  rw [State.holders, Nat.add_eq_zero_iff, Nat.add_eq_zero_iff, List.countP_eq_zero] at holders
  obtain ⟨⟨commands, destroys⟩, deferred⟩ := holders
  refine ⟨by simpa using destroys, by simpa using deferred, ?_⟩
  intro job here
  exact commands _ here rfl

/-- A command that has waited for its resource goes on. -/
theorem wake (sound : Sound (held + 1) state) {job : Job}
    (deferred : state.deferredDestroy = some job) :
    Sound held { state with deferredDestroy := none } :=
  { sound with
    holders := by
      have holders := sound.holders
      rw [State.holders, deferred] at holders
      simp only [State.holders, Option.toList_none, List.length_nil]
      simp only [Option.toList_some, List.length_singleton] at holders
      omega }

/-- An event is asked for. -/
theorem emit (sound : Sound 0 state) (sequence : Nat) :
    Sound 0 (state.emitMailboxEvent sequence) := by
  obtain ⟨undrained, _, unread⟩ := sound.alone
  have numbers (pending : Pending) (next : pending.number = state.emitted.length) :
      (state.emitted ++ [pending]).map Pending.number =
        List.range (state.emitted ++ [pending]).length := by
    rw [List.map_append, sound.numbers, List.length_append, List.length_singleton, List.range_succ,
      List.map_singleton, next]
  unfold State.emitMailboxEvent
  dsimp only
  rw [if_neg (by simp [undrained]), State.processMailboxEvent]
  split
  next flies =>
    have one : state.aeqInFlight = 1 := by
      have flies : state.aeqInFlight ≠ 0 := flies
      have := sound.single
      omega
    exact
      { numbers := numbers _ rfl
        holders := sound.holders
        destroy := sound.destroy
        formed := sound.formed
        produced := sound.produced
        ring := sound.ring
        created := sound.created
        order := sound.order
        told := sound.told
        row := by
          rw [← List.append_assoc]
          exact congrArg (· ++ _) sound.row
        flight := sound.flight
        single := sound.single
        waits := fun _ => one
        draining := fun _ => one
        reading := fun job here => absurd here (unread job)
        writes := sound.writes
        stored := sound.stored }
  next free =>
    have free : state.aeqInFlight = 0 := by simpa using free
    obtain ⟨landed, none, _⟩ := sound.idle free
    rw [none, List.nil_append]
    refine Ready.process
      { numbers := numbers _ rfl
        holders := sound.holders
        destroy := sound.destroy
        formed := sound.formed
        produced := sound.produced
        ring := sound.ring
        created := sound.created
        order := sound.order
        told := sound.told
        idle := free
        landed := landed
        row := ?_
        unread := fun _ => unread }
    rw [sound.row, landed, none, List.append_nil, List.append_nil]

/-! ## Answers -/

variable {index : Nat} {callback : Callback}

/-- A callback of the command queue runs. -/
theorem without (sound : Sound (held + 1) state) (found : state.outstanding[index]? = some callback)
    (command : callback.command = true) :
    Sound held { state with outstanding := state.outstanding.eraseIdx index } := by
  obtain ⟨earlier, later, shape, erased⟩ := split_eraseIdx found
  obtain ⟨eventless, unstored⟩ := eventless_of_command command
  have flying : State.flying { state with outstanding := state.outstanding.eraseIdx index } =
      state.flying := by
    rw [State.flying, State.flying, erased, shape, List.filterMap_append, List.filterMap_append,
      List.filterMap_cons_none eventless]
  have raising : State.raising { state with outstanding := state.outstanding.eraseIdx index } =
      state.raising := by
    rw [State.raising, State.raising, erased, shape, List.filterMap_append, List.filterMap_append,
      List.filterMap_cons_none unstored]
  exact
    { numbers := sound.numbers
      holders := by
        have holders := sound.holders
        rw [State.holders, shape, List.countP_append, List.countP_cons_of_pos command] at holders
        rw [State.holders, erased, List.countP_append]
        change _ + state.pendingEqDestroy.toList.length + state.deferredDestroy.toList.length = held
        omega
      destroy := sound.destroy
      formed := sound.formed
      produced := sound.produced
      ring := sound.ring
      created := sound.created
      order := raising ▸ sound.order
      told := sound.told
      row := flying ▸ sound.row
      flight := flying ▸ sound.flight
      single := sound.single
      waits := sound.waits
      draining := sound.draining
      reading := fun job here => sound.reading job (List.mem_of_mem_eraseIdx here)
      writes := fun _ _ _ here => sound.writes _ _ _ (List.mem_of_mem_eraseIdx here)
      stored := fun _ _ here => sound.stored _ _ (List.mem_of_mem_eraseIdx here) }

/-- The callback of the event in flight is the only one about an event. -/
theorem flying_eq (sound : Sound held state) {pending : Pending}
    (found : state.outstanding[index]? = some callback) (about : callback.event = some pending) :
    state.aeqInFlight = 1 ∧ state.flying = [pending] ∧
      (state.outstanding.eraseIdx index).filterMap Callback.event = [] := by
  obtain ⟨earlier, later, shape, erased⟩ := split_eraseIdx found
  have flying : state.flying = earlier.filterMap Callback.event ++
      pending :: later.filterMap Callback.event := by
    rw [State.flying, shape, List.filterMap_append, List.filterMap_cons_some about]
  have flight := sound.flight
  have single := sound.single
  rw [flying, List.length_append, List.length_cons] at flight
  have front : earlier.filterMap Callback.event = [] :=
    List.length_eq_zero_iff.mp (by omega)
  have back : later.filterMap Callback.event = [] := List.length_eq_zero_iff.mp (by omega)
  refine ⟨by omega, ?_, ?_⟩
  · rw [flying, front, back]
    rfl
  · rw [erased, List.filterMap_append, front, back]
    rfl

/-- An event is through. -/
theorem release (sound : Sound held state) {pending : Pending} {ok : Bool}
    (found : state.outstanding[index]? = some callback) (about : callback.event = some pending)
    (told : ok = true → pending ∈ state.published) :
    Sound held (State.release
      { state with outstanding := state.outstanding.eraseIdx index } pending ok) := by
  obtain ⟨one, flying, landed⟩ := sound.flying_eq found about
  obtain ⟨earlier, later, shape, erased⟩ := split_eraseIdx found
  have uncommanded : ¬ callback.command = true := by
    intro command
    rw [(eventless_of_command command).1] at about
    cases about
  have idle : state.aeqInFlight - 1 = 0 := by omega
  rw [State.release, State.processMailboxEvent, if_neg (by simp [State.complete, one])]
  refine Ready.process
    { numbers := sound.numbers
      holders := ?_
      destroy := sound.destroy
      formed := sound.formed
      produced := sound.produced
      ring := sound.ring
      created := ?_
      order := ?_
      told := told_complete sound.created sound.told told
      idle := idle
      landed := landed
      row := ?_
      unread := ?_ }
  · have holders := sound.holders
    rw [State.holders, shape, List.countP_append, List.countP_cons_of_neg uncommanded] at holders
    rw [State.holders]
    change (state.outstanding.eraseIdx index).countP Callback.command +
      state.pendingEqDestroy.toList.length + state.deferredDestroy.toList.length = held
    rw [erased, List.countP_append]
    exact holders
  · rw [State.complete, List.length_append]
    exact sound.created.trans (Nat.le_add_right _ _)
  · exact order_complete sound.created sound.order (flying ▸ raising_sublist state)
      (raising_of_landed landed)
  · exact sound.row.trans (by simp [State.complete, flying])
  · intro _ job here
    have := sound.reading job (List.mem_of_mem_eraseIdx here)
    omega

/-- One more event is in the ring. -/
theorem holds_store (sound : Sound held state) {pending : Pending} {address : Nat} {bytes : Bytes}
    {source : Nat} {callbacks : List Callback}
    (written : Callback.eventWritten pending address bytes ∈ state.outstanding) :
    State.Holds { state with
      queue := { state.queue with producer := (state.queue.producer + 1) % 2 ^ 32 }
      ubaseCommandSource := source
      published := state.published ++ [pending]
      memory := Function.update state.memory address (some bytes)
      outstanding := callbacks } := by
  obtain ⟨usable, rfl, rfl⟩ := sound.writes _ _ _ written
  obtain ⟨shift, small, deep⟩ := sound.formed.exists_depth usable
  intro slot inside
  have inside : slot < state.queue.depth := inside
  change Function.update state.memory _ _ (state.queue.address slot) =
    Option.map _ (OwnerRing.filled state.queue.depth (state.published ++ [pending]) slot)
  rw [Queue.owner_eq small deep sound.produced, Queue.slot_eq small deep sound.produced,
    OwnerRing.filled_snoc]
  by_cases own : slot = state.published.length % state.queue.depth
  · rw [own, Function.update_self, Function.update_self]
    rfl
  · have apart : state.queue.address slot ≠
        state.queue.address (state.published.length % state.queue.depth) := by
      intro same
      refine own (Queue.address_inj ?_ inside (Nat.mod_lt _ (by omega)) same)
      rw [deep]
      exact Nat.pow_le_pow_right (by decide) small.le
    rw [Function.update_of_ne own, Function.update_of_ne apart]
    exact sound.ring slot inside

/-- The event in flight is stored. -/
theorem store (sound : Sound held state) {pending : Pending} {address : Nat} {bytes : Bytes}
    (found : state.outstanding[index]? = some (.eventWritten pending address bytes)) :
    Sound held (State.call { state with
      queue := { state.queue with producer := (state.queue.producer + 1) % 2 ^ 32 }
      ubaseCommandSource := state.ubaseCommandSource ||| 2
      published := state.published ++ [pending]
      memory := Function.update state.memory address (some bytes)
      outstanding := state.outstanding.eraseIdx index }
      (.interruptRaised state.queue.vector pending)) := by
  have written := List.mem_of_getElem? found
  obtain ⟨one, flying, landed⟩ := sound.flying_eq found rfl
  obtain ⟨earlier, later, shape, erased⟩ := split_eraseIdx found
  have silent : (state.outstanding.eraseIdx index).filterMap Callback.stored = [] :=
    show State.raising { state with outstanding := state.outstanding.eraseIdx index } = [] from
      raising_of_landed landed
  have raising : state.raising = [] := by
    rw [erased, List.filterMap_append] at silent
    rw [State.raising, shape, List.filterMap_append, List.filterMap_cons_none rfl, silent]
  have flies {other : Callback} (event : other.event.isSome) :
      other ∉ state.outstanding.eraseIdx index := by
    intro here
    obtain ⟨flying, same⟩ := Option.isSome_iff_exists.mp event
    have listed : flying ∈ (state.outstanding.eraseIdx index).filterMap Callback.event :=
      List.mem_filterMap.mpr ⟨_, here, same⟩
    simp [landed] at listed
  exact
    { numbers := sound.numbers
      holders := by
        have holders := sound.holders
        rw [State.holders, shape, List.countP_append,
          List.countP_cons_of_neg (by simp [Callback.command])] at holders
        simp [State.holders, State.call, erased, Callback.command]
        omega
      destroy := sound.destroy
      formed := sound.formed
      produced := by
        simp [State.call, sound.produced]
      ring := sound.holds_store written
      created := sound.created
      order := by
        have order := sound.order
        rw [raising, List.append_nil] at order
        simp only [State.call, State.raising, List.filterMap_append, silent, List.nil_append]
        exact order.append (List.Sublist.refl _)
      told := fun done listed ok => List.mem_append_left _ (sound.told done listed ok)
      row := by
        have row := sound.row
        rw [flying] at row
        simp only [State.call, State.flying, List.filterMap_append, landed, List.nil_append]
        exact row
      flight := by
        simp only [State.call, State.flying, List.filterMap_append, landed, List.nil_append]
        exact one.symm
      single := sound.single
      waits := sound.waits
      draining := sound.draining
      reading := by
        intro job here
        rcases List.mem_append.mp here with earlier | new
        · exact sound.reading job (List.mem_of_mem_eraseIdx earlier)
        · cases List.mem_singleton.mp new
      writes := by
        intro other address bytes here
        rcases List.mem_append.mp here with earlier | new
        · exact absurd earlier (flies rfl)
        · cases List.mem_singleton.mp new
      stored := by
        intro vector other here
        rcases List.mem_append.mp here with earlier | new
        · exact absurd earlier (flies rfl)
        · cases List.mem_singleton.mp new
          exact ⟨(sound.writes _ _ _ written).1,
            List.mem_append_right _ (List.mem_singleton_self _)⟩ }

end Sound

/-! ## Steps -/

@[simp]
theorem finishOther_ubaseBusy (state : State) (job : Job) (status : Nat) :
    (state.finishOther job status).ubaseBusy = state.ubaseBusy := by
  unfold State.finishOther
  split_ifs <;> rfl

@[simp]
theorem handleUbaseMailbox_ubaseBusy (state : State) (job : Job) (status : Nat) (waits : Bool) :
    (state.handleUbaseMailbox job status waits).ubaseBusy = state.ubaseBusy := by
  unfold State.handleUbaseMailbox
  split
  · split_ifs <;> rfl
  · split_ifs <;> rfl
  · split_ifs
    · rfl
    · exact finishOther_ubaseBusy state job status
  · exact finishOther_ubaseBusy state job status

@[simp]
theorem processEvents_ubaseBusy (state : State) (waiting : List Pending) :
    (state.processEvents waiting).ubaseBusy = state.ubaseBusy := by
  induction waiting generalizing state with
  | nil =>
      rw [State.processEvents, State.maybeCompleteEqDestroy]
      split
      · rfl
      · split_ifs
        · rfl
        · simp
  | cons pending rest inductionHypothesis =>
      rw [State.processEvents]
      split_ifs
      · rfl
      · rw [inductionHypothesis]
        rfl

@[simp]
theorem release_ubaseBusy (state : State) (pending : Pending) (ok : Bool) :
    (state.release pending ok).ubaseBusy = state.ubaseBusy := by
  rw [State.release, State.processMailboxEvent]
  split_ifs
  · rfl
  · rw [processEvents_ubaseBusy]
    rfl

namespace Sound

variable {index : Nat} {callback : Callback}

/-- The command queue is busy while it waits for a callback. -/
theorem busy_of_command (sound : Sound state.ubaseBusy.toNat state)
    (found : state.outstanding[index]? = some callback) (command : callback.command = true) :
    state.ubaseBusy = true := by
  have holders := sound.holders
  have counted : 0 < state.outstanding.countP Callback.command :=
    List.countP_pos_iff.mpr ⟨callback, List.mem_of_getElem? found, command⟩
  rw [State.holders] at holders
  cases busy : state.ubaseBusy with
  | true => rfl
  | false =>
      rw [busy, Bool.toNat_false] at holders
      omega

theorem busy_of_deferred (sound : Sound state.ubaseBusy.toNat state) {job : Job}
    (deferred : state.deferredDestroy = some job) : state.ubaseBusy = true := by
  have holders := sound.holders
  rw [State.holders, deferred, Option.toList_some, List.length_singleton] at holders
  cases busy : state.ubaseBusy with
  | true => rfl
  | false =>
      rw [busy, Bool.toNat_false] at holders
      omega

theorem of_busy (sound : Sound 1 state) (busy : state.ubaseBusy = true) :
    Sound state.ubaseBusy.toNat state := by
  rw [busy]
  exact sound

/-- The host runs a callback. -/
theorem answer (sound : Sound state.ubaseBusy.toNat state) (ok : Bool) (context : Bytes)
    (found : state.outstanding[index]? = some callback) :
    Sound (State.answer { state with outstanding := state.outstanding.eraseIdx index } ok context
        callback).ubaseBusy.toNat
      (State.answer { state with outstanding := state.outstanding.eraseIdx index } ok context
        callback) := by
  cases callback with
  | contextRead job =>
      have busy := sound.busy_of_command found rfl
      have free := sound.reading job (List.mem_of_getElem? found)
      rw [busy] at sound
      have taken : Sound 0 _ := sound.without found rfl
      rw [State.answer]
      split_ifs
      · rw [State.applyUbaseMailbox]
        split_ifs with checked
        · exact of_busy ((taken.install free (Queue.formed_decode checked) rfl).finish 0
            job.mailboxEvent) busy
        · exact of_busy (taken.reject 22) busy
      · exact of_busy (taken.reject 5) busy
  | recordWritten status after =>
      have busy := sound.busy_of_command found rfl
      rw [busy] at sound
      have taken : Sound 0 _ := sound.without found rfl
      rw [State.answer]
      split_ifs
      · cases after with
        | nothing => exact taken.aside _ _ false
        | ctrlqResponse event => exact taken.aside _ _ false
        | mailboxEvent sequence => exact (taken.emit sequence).aside _ _ false
      · exact taken.aside _ _ false
  | eventWritten pending address bytes =>
      rw [State.answer]
      split_ifs
      · exact sound.store found
      · rw [release_ubaseBusy]
        exact sound.release found rfl (by simp)
  | interruptRaised vector pending =>
      rw [State.answer, release_ubaseBusy]
      exact sound.release found rfl fun _ =>
        (sound.stored _ _ (List.mem_of_getElem? found)).2

theorem initial : Sound (State.ubaseBusy {}).toNat {} where
  numbers := rfl
  holders := rfl
  destroy := by simp
  formed := .inl ⟨rfl, rfl⟩
  produced := rfl
  ring := fun _ _ => rfl
  created := le_rfl
  order := List.nil_sublist _
  told := by simp
  row := rfl
  flight := rfl
  single := Nat.zero_le 1
  waits := fun waits => absurd rfl waits
  draining := by simp
  reading := by simp
  writes := by simp
  stored := by simp

theorem step (sound : Sound state.ubaseBusy.toNat state) {event : Event} {after : State}
    (taken : Aeq.step state event = some after) : Sound after.ubaseBusy.toNat after := by
  cases event with
  | command job status waits =>
      simp only [Aeq.step] at taken
      split at taken
      · cases taken
      next ready =>
        obtain rfl := Option.some.inj taken
        rw [Bool.eq_false_iff.mpr ready] at sound
        refine of_busy ?_ (handleUbaseMailbox_ubaseBusy _ _ _ _)
        exact (sound.aside _ _ true).handle sound.alone.1 job status fun _ => sound.alone.2.1
  | resume status =>
      obtain ⟨job, deferred, rfl⟩ := Option.map_eq_some_iff.mp taken
      have busy := sound.busy_of_deferred deferred
      rw [busy] at sound
      have woken : Sound 0 { state with deferredDestroy := none } := sound.wake deferred
      refine of_busy ?_ ((handleUbaseMailbox_ubaseBusy _ _ _ _).trans busy)
      exact woken.handle woken.alone.1 job status fun _ => rfl
  | answer index ok context =>
      obtain ⟨callback, found, rfl⟩ := Option.map_eq_some_iff.mp taken
      exact sound.answer ok context found

end Sound

theorem sound_of_reaches {state : State} (reached : Reaches step always {} state) :
    Sound state.ubaseBusy.toNat state := by
  induction reached with
  | refl => exact Sound.initial
  | tail _ taken _ inductionHypothesis => exact inductionHypothesis.step taken

end Udma.Aeq
