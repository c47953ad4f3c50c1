import Mathlib

/-!
# Guarded runs of a partial step function

A machine is a partial step function on states and events.  A guard restricts
the steps a run may take, so that one relation serves both for every run (the
guard `always`) and for the runs that keep to a stated discipline.
-/

namespace Udma.Transition

universe u v w

variable {State : Type u} {Event : Type v}

/-- The states reached from `start` by steps that all satisfy `guard`. -/
inductive Reaches (step : State → Event → Option State)
    (guard : State → Event → State → Prop) (start : State) : State → Prop where
  | refl : Reaches step guard start start
  | tail {before after : State} {event : Event} :
      Reaches step guard start before →
      step before event = some after →
      guard before event after →
      Reaches step guard start after

/-- The guard that admits every step. -/
def always (_before : State) (_event : Event) (_after : State) : Prop := True

namespace Reaches

variable {step : State → Event → Option State}
  {guard : State → Event → State → Prop} {start state : State}

/-- An invariant that holds initially and survives every guarded step holds in
every reached state. -/
theorem invariant {Good : State → Prop} (reached : Reaches step guard start state)
    (initial : Good start)
    (preserved : ∀ before event after, Good before →
      step before event = some after → guard before event after → Good after) :
    Good state := by
  induction reached with
  | refl => exact initial
  | tail _ taken allowed inductionHypothesis =>
      exact preserved _ _ _ inductionHypothesis taken allowed

/-- The same rule for an invariant whose preservation rests on others already
known of every reached state. -/
theorem induction_on (Good : State → Prop) (reached : Reaches step guard start state)
    (initial : Good start)
    (preserved : ∀ before event after, Reaches step guard start before → Good before →
      step before event = some after → guard before event after → Good after) :
    Good state := by
  induction reached with
  | refl => exact initial
  | tail earlier taken allowed inductionHypothesis =>
      exact preserved _ _ _ earlier inductionHypothesis taken allowed

/-- Weakening the guard keeps every reached state. -/
theorem mono {wider : State → Event → State → Prop}
    (reached : Reaches step guard start state)
    (weaker : ∀ before event after, guard before event after →
      wider before event after) :
    Reaches step wider start state := by
  induction reached with
  | refl => exact .refl
  | tail _ taken allowed inductionHypothesis =>
      exact .tail inductionHypothesis taken (weaker _ _ _ allowed)

theorem trans {middle : State} (first : Reaches step guard start middle)
    (second : Reaches step guard middle state) :
    Reaches step guard start state := by
  induction second with
  | refl => exact first
  | tail _ taken allowed inductionHypothesis =>
      exact .tail inductionHypothesis taken allowed

end Reaches

/-- Execute a list of events, checking the guard at every step. -/
def execute (step : State → Event → Option State)
    (guard : State → Event → State → Prop)
    [∀ before event after, Decidable (guard before event after)] :
    List Event → State → Option State
  | [], state => some state
  | event :: rest, state =>
      match step state event with
      | none => none
      | some next =>
          if guard state event next then execute step guard rest next else none

instance (before : State) (event : Event) (after : State) :
    Decidable (always before event after) := inferInstanceAs (Decidable True)

/-- A successful execution is a guarded run. -/
theorem reaches_of_execute {step : State → Event → Option State}
    {guard : State → Event → State → Prop}
    [∀ before event after, Decidable (guard before event after)]
    {events : List Event} {start state : State}
    (executed : execute step guard events start = some state) :
    Reaches step guard start state := by
  induction events generalizing start with
  | nil =>
      simp only [execute, Option.some.injEq] at executed
      subst executed
      exact .refl
  | cons event rest inductionHypothesis =>
      unfold execute at executed
      cases taken : step start event with
      | none => simp [taken] at executed
      | some next =>
          simp only [taken] at executed
          split at executed
          next allowed =>
            exact (Reaches.tail .refl taken allowed).trans
              (inductionHypothesis executed)
          next refused => simp at executed

/-- A run whose end is observed through `view`. -/
theorem exists_of_execute {step : State → Event → Option State}
    {guard : State → Event → State → Prop}
    [∀ before event after, Decidable (guard before event after)]
    {events : List Event} {start : State} {View : Type w} {view : State → View} {seen : View}
    (executed : (execute step guard events start).map view = some seen) :
    ∃ state, Reaches step guard start state ∧ view state = seen := by
  obtain ⟨state, ran, same⟩ := Option.map_eq_some_iff.mp executed
  exact ⟨state, reaches_of_execute ran, same⟩

/-! ## Recorded runs -/

section Recorded

variable {Journal : Type w}

/-- The machine with a journal of its steps, which they do not depend on. -/
def recorded (step : State → Event → Option State)
    (record : State → Event → State → Journal → Journal) (pair : State × Journal)
    (event : Event) : Option (State × Journal) :=
  (step pair.1 event).map fun after => (after, record pair.1 event after pair.2)

/-- A guard of the machine as one of the machine with a journal. -/
def recordedGuard (guard : State → Event → State → Prop) (before : State × Journal)
    (event : Event) (after : State × Journal) : Prop :=
  guard before.1 event after.1

instance (guard : State → Event → State → Prop)
    [∀ before event after, Decidable (guard before event after)] (before : State × Journal)
    (event : Event) (after : State × Journal) :
    Decidable (recordedGuard guard before event after) :=
  inferInstanceAs (Decidable (guard before.1 event after.1))

variable {step : State → Event → Option State} {guard : State → Event → State → Prop}
  {record : State → Event → State → Journal → Journal}

theorem Reaches.of_recorded {start pair : State × Journal}
    (reached : Reaches (recorded step record) (recordedGuard guard) start pair) :
    Reaches step guard start.1 pair.1 := by
  induction reached with
  | refl => exact .refl
  | tail _ taken allowed inductionHypothesis =>
      obtain ⟨after, moved, rfl⟩ := Option.map_eq_some_iff.mp taken
      exact .tail inductionHypothesis moved allowed

/-- A relation between state and journal that holds initially and survives every step. -/
theorem Reaches.recorded_induction (Good : State → Journal → Prop) {start : State × Journal}
    {state : State} {journal : Journal}
    (reached : Reaches (recorded step record) (recordedGuard guard) start (state, journal))
    (initial : Good start.1 start.2)
    (preserved : ∀ before event after journal, Reaches step guard start.1 before →
      Good before journal → step before event = some after → guard before event after →
      Good after (record before event after journal)) :
    Good state journal := by
  have general : ∀ pair, Reaches (recorded step record) (recordedGuard guard) start pair →
      Good pair.1 pair.2 := by
    intro pair earlier
    induction earlier with
    | refl => exact initial
    | tail before taken allowed inductionHypothesis =>
        obtain ⟨after, moved, rfl⟩ := Option.map_eq_some_iff.mp taken
        exact preserved _ _ after _ before.of_recorded inductionHypothesis moved allowed
  exact general (state, journal) reached

end Recorded

end Udma.Transition
