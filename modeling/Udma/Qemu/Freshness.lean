import Udma.Qemu.TimedRead
import Udma.Transition.Trace

/-!
# The value a timed read returns

A completed value waits in the record for the access that matches its register and
size.  When that access is made by the vCPU that asked, and this vCPU has posted
nothing since, the value is its own and fresh.
-/

namespace Udma.Qemu

open Udma.Collections Udma.Transition

/-- The value was produced for a request that the vCPU made, and the vCPU has posted no write
after it. -/
def Fresh (before : List Observation) : Observation → Prop
  | .returned cpu value => ∃ id earlier later, before = earlier ++ .requested cpu id :: later ∧
      .answered id value ∈ later ∧ ∀ write, .posted cpu write ∉ later
  | _ => True

/-- The access that takes a completed value is made by the vCPU that asked for it, which has
posted no write in between. -/
def OwnRetry (before : State) : Event → State → Prop
  | .read cpu offset size, _ => before.completed offset size = true →
      before.requestCpu = some cpu ∧ cpu ∉ before.writers
  | _, _ => True

instance (before : State) (event : Event) (after : State) :
    Decidable (OwnRetry before event after) := by
  unfold OwnRetry
  rcases event with _ | _ <;> infer_instance

namespace State

/-- What happened since the request of the record: the posted writes are known, and an answer
that is on its way or has arrived is among it. -/
structure Since (state : State) (cpu : Nat) (later : List Observation) : Prop where
  asked : state.requestCpu = some cpu
  shape : ∃ earlier, state.trace = earlier ++ .requested cpu state.expectedRequest :: later
  posted : ∀ who write, .posted who write ∈ later → who ∈ state.writers
  arriving : ∀ completion ∈ state.d2h, completion.id = state.expectedRequest →
    .answered state.expectedRequest completion.value ∈ later
  arrived : state.requestProcessing = false →
    .answered state.expectedRequest state.completionValue ∈ later

structure Traced (state : State) : Prop where
  bounded : ∀ id ∈ state.outstanding, id ≤ state.nextRequest
  record : state.requestPending = true → ∃ cpu later, state.Since cpu later

variable {state after : State} {cpu : Nat} {later added : List Observation}

/-- The record stays, and the trace grows. -/
theorem Since.grow (since : state.Since cpu later)
    (asked : after.requestCpu = state.requestCpu)
    (expected : after.expectedRequest = state.expectedRequest)
    (processing : after.requestProcessing = state.requestProcessing)
    (value : after.completionValue = state.completionValue)
    (trace : after.trace = state.trace ++ added)
    (writers : ∀ who ∈ state.writers, who ∈ after.writers)
    (posted : ∀ who write, .posted who write ∈ added → who ∈ after.writers)
    (queue : ∀ completion ∈ after.d2h, completion ∈ state.d2h ∨
      .answered completion.id completion.value ∈ added) :
    after.Since cpu (later ++ added) := by
  refine ⟨asked.trans since.asked, ?_, ?_, ?_, ?_⟩
  · obtain ⟨earlier, shape⟩ := since.shape
    exact ⟨earlier, by rw [trace, shape, expected, List.append_assoc, List.cons_append]⟩
  · intro who write membership
    rcases List.mem_append.mp membership with old | new
    · exact writers who (since.posted who write old)
    · exact posted who write new
  · intro completion membership mine
    rw [expected] at mine ⊢
    rcases queue completion membership with old | new
    · exact List.mem_append_left _ (since.arriving completion old mine)
    · exact List.mem_append_right _ (mine ▸ new)
  · intro idle
    rw [expected, value]
    exact List.mem_append_left _ (since.arrived (processing ▸ idle))

namespace Traced

theorem initial : State.initial.Traced :=
  ⟨by simp [State.initial, outstanding], by simp [State.initial]⟩

theorem start (traced : state.Traced) (pending : Bool) (offset size : Nat) :
    (startTimedRead { state with requestPending := pending } cpu offset size).Traced := by
  refine ⟨?_, fun _ => ⟨cpu, [], rfl, ⟨state.trace, rfl⟩, by simp, ?_, ?_⟩⟩
  · intro id membership
    have either : id = state.nextRequest + 1 ∨ id ∈ state.outstanding := by
      simp only [startTimedRead, outstanding, ubsimTcgSuspendCpu, setCpu, emit, Request.id,
        List.map_append, List.map_cons, List.map_nil, List.mem_append, List.mem_cons,
        List.not_mem_nil, or_false] at membership ⊢
      tauto
    show id ≤ state.nextRequest + 1
    rcases either with rfl | old
    · exact Nat.le_refl _
    · exact Nat.le_succ_of_le (traced.bounded id old)
  · intro completion membership mine
    have known : completion.id ∈ state.outstanding :=
      List.mem_append_right _ (List.mem_map_of_mem membership)
    have small := traced.bounded _ known
    have large : completion.id = state.nextRequest + 1 := mine
    omega
  · intro idle
    exact absurd idle (by simp [startTimedRead, ubsimTcgSuspendCpu, setCpu, emit])

theorem read {offset size : Nat} (traced : state.Traced)
    (outcome : ReadOutcome state cpu offset size after) : after.Traced := by
  cases outcome with
  | suspended pending processing =>
      refine ⟨traced.bounded, fun held => ?_⟩
      obtain ⟨who, later, since⟩ := traced.record held
      exact ⟨who, later ++ [], since.grow rfl rfl rfl rfl (List.append_nil _).symm
        (fun _ known => known) (by simp) (fun _ known => .inl known)⟩
  | returned found => exact ⟨traced.bounded, fun held => absurd held (by simp [emit])⟩
  | started idle pending => exact traced.start pending offset size

theorem write (traced : state.Traced) (cpu offset value size : Nat) :
    (ubsimMmioTimingWrite state cpu offset value size).Traced := by
  refine ⟨?_, fun held => ?_⟩
  · intro id membership
    have either : id = state.nextRequest + 1 ∨ id ∈ state.outstanding := by
      simp only [ubsimMmioTimingWrite, outstanding, emit, Request.id, List.map_append,
        List.map_cons, List.map_nil, List.mem_append, List.mem_cons, List.not_mem_nil,
        or_false] at membership ⊢
      tauto
    show id ≤ state.nextRequest + 1
    rcases either with rfl | old
    · exact Nat.le_refl _
    · exact Nat.le_succ_of_le (traced.bounded id old)
  · obtain ⟨who, later, since⟩ := traced.record held
    refine ⟨who, later ++ [.posted cpu (state.nextRequest + 1)],
      since.grow rfl rfl rfl rfl rfl (fun _ known => List.mem_cons_of_mem _ known) ?_
        (fun _ known => .inl known)⟩
    intro other id membership
    obtain ⟨rfl, _⟩ : other = cpu ∧ id = state.nextRequest + 1 := by simpa using membership
    exact List.mem_cons_self

theorem answer (traced : state.Traced) {request : Request} {rest : List Request}
    (sent : state.h2d.Perm (request :: rest)) (value status : Nat) :
    ({ state with
      h2d := rest
      d2h := state.d2h ++ [Completion.mk request.id value status] }.emit
        (.answered request.id value)).Traced := by
  refine ⟨?_, fun held => ?_⟩
  · intro id membership
    refine traced.bounded id ?_
    unfold outstanding
    rw [List.mem_append, (sent.map Request.id).mem_iff]
    simp only [outstanding, emit, List.map_append, List.mem_append, List.map_cons, List.map_nil,
      List.mem_cons, List.not_mem_nil, or_false] at membership ⊢
    tauto
  · obtain ⟨who, later, since⟩ := traced.record held
    refine ⟨who, later ++ [.answered request.id value],
      since.grow rfl rfl rfl rfl rfl (fun _ known => known) (by simp) ?_⟩
    intro completion membership
    rcases List.mem_append.mp membership with old | new
    · exact .inl old
    · obtain rfl := List.mem_singleton.mp new
      exact .inr List.mem_cons_self

theorem service {completion : Completion} {rest : List Completion} (traced : state.Traced)
    (queue : state.d2h = completion :: rest)
    (outcome : ServiceOutcome { state with d2h := rest } completion after) : after.Traced := by
  have fewer : ∀ other ∈ rest, other ∈ state.d2h := fun other known => by simp [queue, known]
  have bounded : ∀ id ∈ { state with d2h := rest }.outstanding, id ≤ state.nextRequest := by
    intro id membership
    refine traced.bounded id ?_
    simp only [outstanding, queue, List.map_cons, List.mem_append, List.mem_cons] at membership ⊢
    tauto
  have arriving : ∀ {who later}, state.Since who later →
      completion.id = state.expectedRequest →
        .answered state.expectedRequest completion.value ∈ later :=
    fun since mine => since.arriving completion (by simp [queue]) mine
  cases outcome with
  | ignored other =>
      refine ⟨bounded, fun held => ?_⟩
      obtain ⟨who, later, since⟩ := traced.record held
      exact ⟨who, later ++ [], since.grow rfl rfl rfl rfl (List.append_nil _).symm
        (fun _ known => known) (by simp) (fun other known => .inl (fewer other known))⟩
  | stored mine unclaimed =>
      refine ⟨bounded, fun held => ?_⟩
      obtain ⟨who, later, since⟩ := traced.record held
      exact ⟨who, later, since.asked, since.shape, since.posted,
        fun other known => since.arriving other (fewer other known),
        fun _ => arriving since mine⟩
  | resumed cpu mine processing asked =>
      refine ⟨bounded, fun held => ?_⟩
      obtain ⟨who, later, since⟩ := traced.record held
      exact ⟨who, later, since.asked, since.shape, since.posted,
        fun other known => since.arriving other (fewer other known),
        fun _ => arriving since mine⟩

theorem step {event : Event} (traced : state.Traced) (stepped : Stepped state event after) :
    after.Traced := by
  cases stepped with
  | read cpu offset size after outcome => exact traced.read outcome
  | write cpu offset value size => exact traced.write cpu offset value size
  | answer index value status request rest sent => exact traced.answer sent value status
  | service completion rest queue after outcome => exact traced.service queue outcome

end Traced

end State

/-- A step adds at most one observation, and a returned value is fresh. -/
theorem fresh_of_step {state after : State} {event : Event} (traced : state.Traced)
    (stepped : Stepped state event after) (allowed : OwnRetry state event after) :
    after.trace = state.trace ∨
      ∃ observation, after.trace = state.trace ++ [observation] ∧
        Fresh state.trace observation := by
  cases stepped with
  | read cpu offset size after outcome =>
      cases outcome with
      | suspended pending processing => exact .inl rfl
      | returned found =>
          refine .inr ⟨_, rfl, ?_⟩
          obtain ⟨own, quiet⟩ := allowed found
          simp only [State.completed, Bool.and_eq_true, Bool.not_eq_true'] at found
          obtain ⟨who, later, since⟩ := traced.record found.1.1
          obtain rfl : cpu = who := Option.some.inj (own.symm.trans since.asked)
          obtain ⟨earlier, shape⟩ := since.shape
          exact ⟨_, earlier, later, shape, since.arrived found.1.2,
            fun write posted => quiet (since.posted cpu write posted)⟩
      | started idle pending => exact .inr ⟨.requested cpu (state.nextRequest + 1), rfl, trivial⟩
  | write cpu offset value size =>
      exact .inr ⟨.posted cpu (state.nextRequest + 1), rfl, trivial⟩
  | answer index value status request rest sent =>
      exact .inr ⟨.answered request.id value, rfl, trivial⟩
  | service completion rest queue after outcome =>
      cases outcome <;> exact .inl rfl

theorem timed_read_fresh {state : State}
    (reached : Reaches step OwnRetry State.initial state) :
    Throughout Fresh state.trace := by
  have both : state.Traced ∧ Throughout Fresh state.trace := by
    refine reached.induction_on (fun state => state.Traced ∧ Throughout Fresh state.trace)
      ⟨State.Traced.initial, Throughout.nil⟩ ?_
    rintro before event after _ ⟨traced, fresh⟩ taken allowed
    have stepped := step_stepped taken
    refine ⟨traced.step stepped, ?_⟩
    rcases fresh_of_step traced stepped allowed with same | ⟨observation, grown, new⟩
    · rwa [same]
    · rw [grown]
      exact fresh.append_single new
  exact both.2

/-- A vCPU is interrupted between the completion and its retry; the handler reads another
register, so the retry asks again. -/
theorem interrupted_read_fresh :
    ∃ state, Reaches step OwnRetry State.initial state ∧
      state.trace.getLast? = some (.returned 0 9) ∧ Throughout Fresh state.trace := by
  let events : List Event := [.write 0 0x20 1 4, .read 0 0x10 4, .answer 0 0 0, .answer 0 7 0,
    .service, .service, .read 0 0x18 4, .answer 0 5 0, .service, .read 0 0x18 4,
    .read 0 0x10 4, .answer 0 9 0, .service, .read 0 0x10 4]
  obtain ⟨state, reached, last⟩ := exists_of_execute
    (show (execute step OwnRetry events State.initial).map (fun state => state.trace.getLast?) =
      some (some (.returned 0 9)) by decide +kernel)
  exact ⟨state, reached, last, timed_read_fresh reached⟩

/-- The answer to one vCPU is taken by another that reads the same register. -/
theorem completed_value_taken_by_other :
    ¬ ∀ state, Reaches step always State.initial state → Throughout Fresh state.trace := by
  intro fresh
  let events : List Event := [.read 0 0x10 4, .answer 0 7 0, .service, .read 1 0x10 4]
  obtain ⟨state, reached, trace⟩ := exists_of_execute
    (show (execute step always events State.initial).map State.trace =
      some [.requested 0 1, .answered 1 7, .returned 1 7] by decide +kernel)
  obtain ⟨id, earlier, later, shape, _⟩ := fresh state reached
    [.requested 0 1, .answered 1 7] (.returned 1 7) [] trace
  have asked : Observation.requested 1 id ∈ [Observation.requested 0 1, .answered 1 7] := by
    rw [shape]
    simp
  simp at asked

end Udma.Qemu
