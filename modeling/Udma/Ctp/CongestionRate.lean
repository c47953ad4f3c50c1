import Mathlib
import Udma.Ctp.Duplicates
import Udma.Transition.Clocked

/-!
# The congestion rate of the transport

A CNP halves the rate of a congestion key, and the rate recovers by one step in every interval.
`GetCongestionRate` makes up for the intervals that have passed when it is asked.  The eager
process below it adds each step when its interval ends; the answers are the same.
-/

namespace Udma.Ctp.Congestion

open Udma.Transition

/-! ## The service -/

/-- `UbCtpCongestionKey`. -/
structure CongestionKey where
  dstNodeId : UInt32
  dstEntityId : UInt32
  vl : UInt8
  deriving DecidableEq

/-- `MakeCongestionKey`. -/
def makeCongestionKey (key : EntityKey) : CongestionKey :=
  ⟨key.dstNodeId, key.dstEntityId, key.vl⟩

/-- The values that `SetCongestionLineRate`, `SetCongestionMinimumRate` and
`SetCongestionRecovery` let pass. -/
structure Settings where
  lineRate : Nat
  minimumRate : Nat
  recoveryInterval : Nat
  recoveryStep : Nat
  lineRate_range : 0 < lineRate ∧ lineRate < 2 ^ 64
  minimumRate_range : 0 < minimumRate ∧ minimumRate < 2 ^ 64
  recoveryInterval_range : recoveryInterval < 2 ^ 63
  recoveryStep_range : recoveryStep < 2 ^ 64
  recovery : recoveryStep ≠ 0 → 0 < recoveryInterval

/-- The part of `CongestionState` that the rate depends on, and its signals. -/
structure CongestionState where
  signals : Nat
  rateBitsPerSecond : Nat
  lastRecovery : Int
  deriving DecidableEq, Repr

structure Service where
  congestionStates : AList fun _ : CongestionKey => CongestionState
  rateCutCount : Nat

/-- A `uint64_t` result, if it does not wrap around. -/
def word64 (value : Nat) : Option Nat := if value < 2 ^ 64 then some value else none

/-- A `uint64_t` difference, if it does not wrap around. -/
def minus64 (left right : Nat) : Option Nat := if right ≤ left then some (left - right) else none

/-- A `Time` result, if its 64-bit time step does not overflow. -/
def timeStep (value : Int) : Option Int :=
  if -2 ^ 63 ≤ value ∧ value < 2 ^ 63 then some value else none

/-- The rate after the steps of some intervals, when `needed` of them reach the line rate. -/
def addSteps (settings : Settings) (rate periods needed : Nat) : Option Nat :=
  if needed ≤ periods then some settings.lineRate
  else do
    let gain ← word64 (periods * settings.recoveryStep)
    word64 (rate + gain)

/-- The intervals that have passed since the last recovery. -/
def recover (settings : Settings) (now : Int) (value : CongestionState) :
    Option CongestionState := do
  let elapsed ← timeStep (now - value.lastRecovery)
  let periods := elapsed.tdiv settings.recoveryInterval
  if 0 < periods then
    let headroom ← minus64 settings.lineRate (min value.rateBitsPerSecond settings.lineRate)
    let needed ← word64 (headroom / settings.recoveryStep +
      (headroom % settings.recoveryStep != 0).toNat)
    let rate ← addSteps settings value.rateBitsPerSecond periods.toNat needed
    let shift ← timeStep (settings.recoveryInterval * periods)
    let lastRecovery ← timeStep (value.lastRecovery + shift)
    some { value with
      rateBitsPerSecond := rate
      lastRecovery := lastRecovery }
  else some value

/-- `GetCongestionRate`. -/
def getCongestionRate (settings : Settings) (service : Service) (now : Int) (key : EntityKey) :
    Option (Nat × Service) :=
  match service.congestionStates.lookup (makeCongestionKey key) with
  | none => some (settings.lineRate, service)
  | some state => do
      let value ← if settings.recoveryStep ≠ 0 then recover settings now state else some state
      some (if value.rateBitsPerSecond = 0 then settings.lineRate else value.rateBitsPerSecond,
        { service with
          congestionStates := service.congestionStates.insert (makeCongestionKey key) value })

/-- The least rate that a CNP leaves. -/
def Settings.floor (settings : Settings) : Nat := min settings.minimumRate settings.lineRate

def Settings.cut (settings : Settings) (rate : Nat) : Nat := max settings.floor (rate / 2)

/-- `RecordCnpForTest`. -/
def recordCnp (settings : Settings) (service : Service) (now : Int) (key : EntityKey) :
    Option Service := do
  let (_, service) ← getCongestionRate settings service now key
  let state := (service.congestionStates.lookup (makeCongestionKey key)).getD ⟨0, 0, 0⟩
  let rate :=
    if state.rateBitsPerSecond = 0 then settings.lineRate else state.rateBitsPerSecond
  some {
    congestionStates := service.congestionStates.insert (makeCongestionKey key)
      { signals := (state.signals + 1) % 2 ^ 32
        rateBitsPerSecond := settings.cut rate
        lastRecovery := now }
    rateCutCount := (service.rateCutCount + 1) % 2 ^ 64 }

inductive Act where
  | cnp
  | query
  deriving DecidableEq

structure Event where
  time : Nat
  key : EntityKey
  act : Act
  time_range : time < 2 ^ 63

def handle (settings : Settings) (service : Service) (event : Event) :
    Option (Option Nat × Service) :=
  match event.act with
  | .cnp => (recordCnp settings service event.time event.key).map fun service => (none, service)
  | .query => (getCongestionRate settings service event.time event.key).map
      fun answer => (some answer.1, answer.2)

/-- The answers to the queries among the events. -/
def run (settings : Settings) : Service → List Event → Option (List Nat × Service)
  | service, [] => some ([], service)
  | service, event :: rest => do
      let (answer, service) ← handle settings service event
      let (answers, service) ← run settings service rest
      some (answer.toList ++ answers, service)

def Service.initial : Service := ⟨∅, 0⟩

/-! ## The reference process -/

/-- The rate of every key at a time. -/
@[ext]
structure Reference where
  now : Nat
  rates : CongestionKey → Clocked Nat

def Settings.recovered (settings : Settings) (rate : Nat) : Nat :=
  min settings.lineRate (rate + settings.recoveryStep)

namespace Reference

variable (settings : Settings)

/-- Time passes: every rate gets a step at the end of each of its intervals. -/
def advance (reference : Reference) (time : Nat) : Reference where
  now := time
  rates := fun key =>
    (Clocked.tick settings.recoveryInterval settings.recovered)^[time - reference.now]
      (reference.rates key)

/-- A CNP cuts the rate and begins a new interval. -/
def cut (reference : Reference) (key : CongestionKey) : Reference :=
  { reference with
    rates := Function.update reference.rates key
      (.fresh (settings.cut (reference.rates key).value)) }

def handle (reference : Reference) (event : Event) : Reference :=
  match event.act with
  | .cnp => (reference.advance settings event.time).cut settings (makeCongestionKey event.key)
  | .query => reference.advance settings event.time

def answer (reference : Reference) (event : Event) : Option Nat :=
  match event.act with
  | .cnp => none
  | .query =>
      some ((reference.advance settings event.time).rates (makeCongestionKey event.key)).value

def answers : Reference → List Event → List Nat
  | _, [] => []
  | reference, event :: rest =>
      (reference.answer settings event).toList ++ answers (reference.handle settings event) rest

def initial : Reference where
  now := 0
  rates := fun _ => .fresh settings.lineRate

end Reference

/-! ## Catching up -/

section Recover

variable {settings : Settings} {now : Int} {state : CongestionState}

theorem word64_fits {value : Nat} (fits : value < 2 ^ 64) : word64 value = some value := if_pos fits

theorem minus64_fits {left right : Nat} (fits : right ≤ left) :
    minus64 left right = some (left - right) := if_pos fits

theorem timeStep_fits {value : Int} (low : 0 ≤ value) (high : value < 2 ^ 63) :
    timeStep value = some value := if_pos ⟨by omega, high⟩

/-- The steps that are needed fill the headroom, and no fewer do. -/
theorem needed_le_iff {headroom step : Nat} (positive : 0 < step) (periods : Nat) :
    headroom / step + (headroom % step != 0).toNat ≤ periods ↔ headroom ≤ periods * step := by
  have parts := Nat.div_add_mod headroom step
  have small := Nat.mod_lt headroom positive
  by_cases exact : headroom % step = 0
  · simp only [exact, bne_self_eq_false, Bool.toNat_false, Nat.add_zero]
    rw [exact, Nat.add_zero] at parts
    conv_rhs => rw [← parts, Nat.mul_comm]
    exact (Nat.mul_le_mul_right_iff positive).symm
  · have rest : (headroom % step != 0).toNat = 1 := by simp [exact]
    rw [rest, Nat.add_one_le_iff, Nat.div_lt_iff_lt_mul positive]
    constructor
    · exact Nat.le_of_lt
    · intro within
      refine lt_of_le_of_ne within ?_
      rintro rfl
      exact exact (Nat.mul_mod_left _ _)

theorem needed_lt {headroom step : Nat} (positive : 0 < step) (fits : headroom < 2 ^ 64) :
    headroom / step + (headroom % step != 0).toNat < 2 ^ 64 := by
  have enough := (@needed_le_iff headroom step positive headroom).mpr
    (Nat.le_mul_of_pos_right headroom positive)
  omega

/-- The steps of some intervals, up to the line rate. -/
theorem addSteps_eq (positive : 0 < settings.recoveryStep) {rate headroom : Nat}
    (room : rate + headroom = settings.lineRate) (periods : Nat) :
    addSteps settings rate periods (headroom / settings.recoveryStep +
        (headroom % settings.recoveryStep != 0).toNat) =
      some (min settings.lineRate (rate + periods * settings.recoveryStep)) := by
  have line := settings.lineRate_range
  have enough := @needed_le_iff headroom settings.recoveryStep positive periods
  unfold addSteps
  split
  next filled =>
    have within := enough.mp filled
    rw [Nat.min_eq_left (by omega)]
  next short =>
    have beyond := fun within => short (enough.mpr within)
    rw [Nat.min_eq_right (by omega), word64_fits (by omega), Option.bind_eq_bind,
      Option.bind_some, word64_fits (by omega)]

/-- The rate after the whole intervals that have passed, and the end of the last of them.  All
results fit. -/
theorem recover_eq (positive : 0 < settings.recoveryStep) {start elapsed : Nat}
    (begins : state.lastRecovery = start) (passed : now = start + elapsed)
    (fits : now < 2 ^ 63) (below : state.rateBitsPerSecond ≤ settings.lineRate) :
    recover settings now state = some { state with
      rateBitsPerSecond := min settings.lineRate (state.rateBitsPerSecond +
        elapsed / settings.recoveryInterval * settings.recoveryStep)
      lastRecovery := (start +
        settings.recoveryInterval * (elapsed / settings.recoveryInterval) : Nat) } := by
  have line := settings.lineRate_range
  have difference : now - state.lastRecovery = (elapsed : Int) := by omega
  have periods : ((elapsed : Int)).tdiv settings.recoveryInterval =
      ((elapsed / settings.recoveryInterval : Nat) : Int) := (Int.ofNat_tdiv _ _).symm
  have whole := Nat.mul_div_le elapsed settings.recoveryInterval
  unfold recover
  rw [difference, timeStep_fits (by omega) (by omega), Option.bind_eq_bind, Option.bind_some]
  simp only
  rw [periods]
  generalize elapsed / settings.recoveryInterval = count at whole ⊢
  have shift : (settings.recoveryInterval : Int) * (count : Nat) =
      ((settings.recoveryInterval * count : Nat) : Int) := (Int.natCast_mul _ _).symm
  generalize settings.recoveryInterval * count = ended at whole shift ⊢
  split
  next some =>
    have moved : (start : Int) + ((ended : Nat) : Int) = ((start + ended : Nat) : Int) :=
      (Int.natCast_add _ _).symm
    have room : settings.lineRate - state.rateBitsPerSecond < 2 ^ 64 := by omega
    have steps := addSteps_eq positive (Nat.add_sub_cancel' below) count
    have few := needed_lt positive room
    have inside : (ended : Int) < 2 ^ 63 := by omega
    rw [Nat.min_eq_left below, minus64_fits below, Option.bind_eq_bind, Option.bind_some]
    generalize settings.lineRate - state.rateBitsPerSecond = headroom at steps few ⊢
    generalize headroom / settings.recoveryStep +
      (headroom % settings.recoveryStep != 0).toNat = needed at steps few ⊢
    rw [word64_fits few, Option.bind_some, Int.toNat_natCast, steps, Option.bind_some, shift,
      timeStep_fits (Int.natCast_nonneg ended) inside, Option.bind_some, begins, moved,
      timeStep_fits (Int.natCast_nonneg _) (by omega), Option.bind_some]
  next none =>
    obtain rfl : count = 0 := by omega
    have still : ended = 0 := by omega
    rw [Nat.zero_mul, Nat.add_zero, Nat.min_eq_right below, still, Nat.add_zero, ← begins]

end Recover

/-! ## The service next to the reference process -/

section Stands

variable {settings : Settings}

theorem recovered_iterate {rate : Nat} (below : rate ≤ settings.lineRate) (periods : Nat) :
    settings.recovered^[periods] rate =
      min settings.lineRate (rate + periods * settings.recoveryStep) :=
  iterate_min_add below periods

/-- The state of a key is as far as the reference process was when the key was last touched. -/
inductive Stands (settings : Settings) (now : Nat) :
    Option CongestionState → Clocked Nat → Prop where
  | untouched (clocked : Clocked Nat) (full : clocked.value = settings.lineRate)
      (inside : clocked.phase < settings.recoveryInterval) : Stands settings now none clocked
  | cut (state : CongestionState) (start elapsed : Nat) (begins : state.lastRecovery = start)
      (passed : now = start + elapsed) (enough : settings.floor ≤ state.rateBitsPerSecond)
      (below : state.rateBitsPerSecond ≤ settings.lineRate) :
      Stands settings now (some state)
        ((Clocked.tick settings.recoveryInterval settings.recovered)^[elapsed]
          (.fresh state.rateBitsPerSecond))

namespace Stands

variable {now later : Nat} {state : Option CongestionState} {clocked : Clocked Nat}

theorem advance (stands : Stands settings now state clocked) (forward : now ≤ later) :
    Stands settings later state
      ((Clocked.tick settings.recoveryInterval settings.recovered)^[later - now] clocked) := by
  cases stands with
  | untouched _ full inside =>
      rw [Clocked.iterate_tick inside]
      refine .untouched _ ?_ (Nat.mod_lt _ (by omega))
      dsimp only
      rw [full, recovered_iterate le_rfl]
      exact Nat.min_eq_left (Nat.le_add_right _ _)
  | cut state start elapsed begins passed enough below =>
      rw [← Function.iterate_add_apply]
      exact .cut state start _ begins (by omega) enough below

theorem floor_le (settings : Settings) : settings.floor ≤ settings.lineRate := Nat.min_le_right _ _

theorem floor_pos (settings : Settings) : 0 < settings.floor :=
  Nat.lt_min.mpr ⟨settings.minimumRate_range.1, settings.lineRate_range.1⟩

/-- The rate of the reference process never leaves the range. -/
theorem range (stands : Stands settings now state clocked)
    (positive : 0 < settings.recoveryInterval) :
    settings.floor ≤ clocked.value ∧ clocked.value ≤ settings.lineRate := by
  cases stands with
  | untouched _ full => exact ⟨full ▸ floor_le settings, Nat.le_of_eq full⟩
  | cut state start elapsed begins passed enough below =>
      rw [Clocked.iterate_tick_fresh positive, recovered_iterate below]
      have bound := floor_le settings
      dsimp only
      omega

end Stands

/-- The state that `GetCongestionRate` leaves stands for the same process, at its rate. -/
theorem recover_stands (positive : 0 < settings.recoveryStep) {now : Nat}
    {state : CongestionState} {clocked : Clocked Nat}
    (stands : Stands settings now (some state) clocked) (fits : now < 2 ^ 63) :
    ∃ value, recover settings now state = some value ∧
      Stands settings now (some value) clocked ∧ value.rateBitsPerSecond = clocked.value ∧
      value.signals = state.signals := by
  have interval := settings.recovery (Nat.ne_of_gt positive)
  cases stands with
  | cut _ start elapsed begins passed enough below =>
      have parts := Nat.div_add_mod elapsed settings.recoveryInterval
      have bound := Stands.floor_le settings
      have moment : (now : Int) = start + elapsed := by omega
      have recovers := recover_eq positive begins moment (by omega) below
      refine ⟨_, recovers, ?_, ?_, rfl⟩
      · rw [Clocked.iterate_tick_catchUp interval, recovered_iterate below]
        refine .cut _ (start + settings.recoveryInterval * (elapsed / settings.recoveryInterval))
          (elapsed % settings.recoveryInterval) rfl (by omega) ?_ (Nat.min_le_left _ _)
        dsimp only
        omega
      · rw [Clocked.iterate_tick_fresh interval, recovered_iterate below]

/-- The service stands for the reference process. -/
structure Follows (settings : Settings) (service : Service) (reference : Reference) : Prop where
  stands : ∀ key, Stands settings reference.now (service.congestionStates.lookup key)
    (reference.rates key)

theorem Follows.advance {service : Service} {reference : Reference}
    (follows : Follows settings service reference) {time : Nat} (forward : reference.now ≤ time) :
    Follows settings service (reference.advance settings time) :=
  ⟨fun key => (follows.stands key).advance forward⟩

theorem Follows.insert {service : Service} {reference : Reference}
    (follows : Follows settings service reference) (key : CongestionKey) {state : CongestionState}
    {clocked : Clocked Nat} (stands : Stands settings reference.now (some state) clocked)
    (cuts : Nat) :
    Follows settings ⟨service.congestionStates.insert key state, cuts⟩
      { reference with rates := Function.update reference.rates key clocked } := by
  refine ⟨fun other => ?_⟩
  by_cases same : other = key
  · subst same
    simpa using stands
  · simpa [AList.lookup_insert_ne same, Function.update_of_ne same] using follows.stands other

/-- A query answers with the rate of the reference process, which it does not change. -/
theorem getCongestionRate_follows (positive : 0 < settings.recoveryStep) {service : Service}
    {reference : Reference} (follows : Follows settings service reference)
    (fits : reference.now < 2 ^ 63) (key : EntityKey) :
    ∃ after, getCongestionRate settings service reference.now key =
        some ((reference.rates (makeCongestionKey key)).value, after) ∧
      Follows settings after reference ∧
      ∀ state, after.congestionStates.lookup (makeCongestionKey key) = some state →
        state.rateBitsPerSecond = (reference.rates (makeCongestionKey key)).value := by
  have stands := follows.stands (makeCongestionKey key)
  unfold getCongestionRate
  cases found : service.congestionStates.lookup (makeCongestionKey key) with
  | none =>
      rw [found] at stands
      cases stands with
      | untouched _ full => exact ⟨service, by rw [full], follows, by simp [found]⟩
  | some state =>
      rw [found] at stands
      obtain ⟨value, recovers, still, rate, _⟩ := recover_stands positive stands fits
      have range := still.range (settings.recovery (Nat.ne_of_gt positive))
      have least := Stands.floor_pos settings
      have nonzero : (reference.rates (makeCongestionKey key)).value ≠ 0 := by omega
      refine ⟨⟨service.congestionStates.insert (makeCongestionKey key) value,
        service.rateCutCount⟩, ?_, ?_, fun other same => ?_⟩
      · simp only [ne_eq, Nat.ne_of_gt positive, not_false_eq_true, if_true, recovers,
          Option.bind_eq_bind, Option.bind_some, rate, if_neg nonzero]
      · have inserted := follows.insert (makeCongestionKey key) still service.rateCutCount
        rwa [Function.update_eq_self] at inserted
      · rw [AList.lookup_insert] at same
        obtain rfl := Option.some.inj same
        exact rate

theorem recordCnp_follows (positive : 0 < settings.recoveryStep) {service : Service}
    {reference : Reference} (follows : Follows settings service reference)
    (fits : reference.now < 2 ^ 63) (key : EntityKey) :
    ∃ after, recordCnp settings service reference.now key = some after ∧
      Follows settings after (reference.cut settings (makeCongestionKey key)) := by
  obtain ⟨between, asked, still, shown⟩ := getCongestionRate_follows positive follows fits key
  have stands := still.stands (makeCongestionKey key)
  have range := stands.range (settings.recovery (Nat.ne_of_gt positive))
  have least := Stands.floor_pos settings
  have bound := Stands.floor_le settings
  unfold recordCnp
  rw [asked, Option.bind_eq_bind, Option.bind_some]
  dsimp only
  generalize rateIs : (if ((between.congestionStates.lookup (makeCongestionKey key)).getD
      ⟨0, 0, 0⟩).rateBitsPerSecond = 0 then settings.lineRate
    else ((between.congestionStates.lookup (makeCongestionKey key)).getD
      ⟨0, 0, 0⟩).rateBitsPerSecond) = rate
  have same : rate = (reference.rates (makeCongestionKey key)).value := by
    cases found : between.congestionStates.lookup (makeCongestionKey key) with
    | none =>
        rw [found] at rateIs stands
        cases stands with
        | untouched _ full => exact rateIs.symm.trans full.symm
    | some state =>
        have current := shown state found
        rw [found, Option.getD_some, current, if_neg (by omega)] at rateIs
        exact rateIs.symm
  refine ⟨_, rfl, ?_⟩
  rw [same]
  refine still.insert (makeCongestionKey key) ?_ _
  have enough : settings.floor ≤ settings.cut (reference.rates (makeCongestionKey key)).value :=
    Nat.le_max_left _ _
  have below : settings.cut (reference.rates (makeCongestionKey key)).value ≤
      settings.lineRate := by
    unfold Settings.cut
    omega
  exact .cut _ reference.now 0 rfl rfl enough below

theorem handle_follows (positive : 0 < settings.recoveryStep) {service : Service}
    {reference : Reference} (follows : Follows settings service reference) {event : Event}
    (forward : reference.now ≤ event.time) :
    ∃ after, handle settings service event = some (reference.answer settings event, after) ∧
      Follows settings after (reference.handle settings event) := by
  have ready := follows.advance forward
  unfold handle Reference.answer Reference.handle
  cases event.act with
  | cnp =>
      obtain ⟨after, recorded, next⟩ :=
        recordCnp_follows positive ready event.time_range event.key
      exact ⟨after, congrArg (Option.map fun service => (none, service)) recorded, next⟩
  | query =>
      obtain ⟨after, asked, next, _⟩ :=
        getCongestionRate_follows positive ready event.time_range event.key
      exact ⟨after, congrArg (Option.map fun answer => (some answer.1, answer.2)) asked, next⟩

/-- The times of the events do not decrease, from `now` on. -/
def Ordered (now : Nat) (events : List Event) : Prop :=
  (now :: events.map Event.time).Pairwise (· ≤ ·)

instance (now : Nat) (events : List Event) : Decidable (Ordered now events) :=
  inferInstanceAs (Decidable (List.Pairwise _ _))

theorem Ordered.cons {now : Nat} {event : Event} {rest : List Event}
    (ordered : Ordered now (event :: rest)) :
    now ≤ event.time ∧ Ordered event.time rest ∧ Ordered now rest := by
  obtain ⟨first, later⟩ := List.pairwise_cons.mp ordered
  refine ⟨first _ List.mem_cons_self, later, List.pairwise_cons.mpr ⟨?_, ?_⟩⟩
  · exact fun time held => first time (List.mem_cons_of_mem _ held)
  · exact (List.pairwise_cons.mp later).2

theorem Reference.handle_now (reference : Reference) (event : Event) :
    (reference.handle settings event).now = event.time := by
  unfold Reference.handle
  split <;> rfl

theorem run_follows (positive : 0 < settings.recoveryStep) {service : Service}
    {reference : Reference} (follows : Follows settings service reference) {events : List Event}
    (ordered : Ordered reference.now events) :
    ∃ after, run settings service events = some (reference.answers settings events, after) := by
  induction events generalizing service reference with
  | nil => exact ⟨service, rfl⟩
  | cons event rest inductionHypothesis =>
      obtain ⟨forward, later, _⟩ := ordered.cons
      obtain ⟨between, handled, still⟩ := handle_follows positive follows forward
      obtain ⟨after, ran⟩ := inductionHypothesis still
        (by rw [Reference.handle_now]; exact later)
      refine ⟨after, ?_⟩
      rw [run, handled, Option.bind_eq_bind, Option.bind_some]
      simp only [ran, Option.bind_eq_bind, Option.bind_some, Reference.answers]

/-- Every answer of the reference process is in the range. -/
theorem answers_range (positive : 0 < settings.recoveryStep) {service : Service}
    {reference : Reference} (follows : Follows settings service reference) {events : List Event}
    (ordered : Ordered reference.now events) {rate : Nat}
    (told : rate ∈ reference.answers settings events) :
    settings.floor ≤ rate ∧ rate ≤ settings.lineRate := by
  induction events generalizing service reference with
  | nil => simp [Reference.answers] at told
  | cons event rest inductionHypothesis =>
      obtain ⟨forward, later, _⟩ := ordered.cons
      obtain ⟨between, handled, still⟩ := handle_follows positive follows forward
      rcases List.mem_append.mp told with now | next
      · have stands := (follows.advance forward).stands (makeCongestionKey event.key)
        have range := stands.range (settings.recovery (Nat.ne_of_gt positive))
        unfold Reference.answer at now
        cases act : event.act with
        | cnp => simp [act] at now
        | query =>
            simp only [act, Option.toList_some, List.mem_singleton] at now
            exact now ▸ range
      · exact inductionHypothesis still (by rw [Reference.handle_now]; exact later) next

end Stands

/-! ## Queries leave no trace -/

section Queries

variable {settings : Settings} {reference : Reference} {time later : Nat}

def Event.isCnp (event : Event) : Bool := event.act == .cnp

def Reference.after (settings : Settings) (reference : Reference) (events : List Event) :
    Reference :=
  events.foldl (fun reference event => reference.handle settings event) reference

theorem Reference.advance_advance (forward : reference.now ≤ time) (further : time ≤ later) :
    (reference.advance settings time).advance settings later = reference.advance settings later := by
  refine Reference.ext rfl (funext fun key => ?_)
  have whole : later - reference.now = (later - time) + (time - reference.now) := by omega
  simp only [Reference.advance]
  rw [whole, Function.iterate_add_apply]

theorem Reference.handle_advance (forward : reference.now ≤ time) {event : Event}
    (further : time ≤ event.time) :
    (reference.advance settings time).handle settings event = reference.handle settings event := by
  unfold Reference.handle
  rw [Reference.advance_advance forward further]

/-- An earlier look at the process does not change what it becomes. -/
theorem Reference.after_advance (forward : reference.now ≤ time) {events : List Event}
    (ordered : Ordered time events) (last : ∀ event ∈ events, event.time ≤ later)
    (further : time ≤ later) :
    ((reference.advance settings time).after settings events).advance settings later =
      (reference.after settings events).advance settings later := by
  cases events with
  | nil => exact Reference.advance_advance forward further
  | cons event rest =>
      have handled := @Reference.handle_advance settings _ _ forward event ordered.cons.1
      unfold Reference.after
      rw [List.foldl_cons, List.foldl_cons, handled]

theorem Ordered.sublist {now : Nat} {events fewer : List Event} (ordered : Ordered now events)
    (within : fewer.Sublist events) : Ordered now fewer :=
  List.Pairwise.sublist ((within.map Event.time).cons_cons now) ordered

/-- Without the queries the process becomes the same. -/
theorem Reference.after_filter {events : List Event} (ordered : Ordered reference.now events)
    (last : ∀ event ∈ events, event.time ≤ later) :
    (reference.after settings events).advance settings later =
      (reference.after settings (events.filter Event.isCnp)).advance settings later := by
  induction events generalizing reference with
  | nil => rfl
  | cons event rest inductionHypothesis =>
      obtain ⟨forward, next, _⟩ := ordered.cons
      have further := last event List.mem_cons_self
      have lastRest : ∀ event ∈ rest, event.time ≤ later :=
        fun other held => last other (List.mem_cons_of_mem _ held)
      have same := @inductionHypothesis (reference.handle settings event)
        (by rw [Reference.handle_now]; exact next) lastRest
      cases act : event.act with
      | cnp =>
          have kept : event.isCnp = true := by simp [Event.isCnp, act]
          rw [List.filter_cons_of_pos kept]
          exact same
      | query =>
          have dropped : ¬ event.isCnp = true := by simp [Event.isCnp, act]
          have passed : reference.handle settings event = reference.advance settings event.time := by
            simp only [Reference.handle, act]
          rw [List.filter_cons_of_neg dropped]
          rw [passed] at same
          calc (reference.after settings (event :: rest)).advance settings later
              = ((reference.advance settings event.time).after settings rest).advance settings
                  later := by rw [← passed]; rfl
            _ = ((reference.advance settings event.time).after settings
                  (rest.filter Event.isCnp)).advance settings later := same
            _ = (reference.after settings (rest.filter Event.isCnp)).advance settings later :=
                Reference.after_advance forward (next.sublist List.filter_sublist)
                  (fun other held => lastRest other (List.mem_of_mem_filter held)) further

theorem Reference.answers_append (reference : Reference) (events : List Event) (query : Event) :
    reference.answers settings (events ++ [query]) =
      reference.answers settings events ++
        ((reference.after settings events).answer settings query).toList := by
  induction events generalizing reference with
  | nil => simp [Reference.answers, Reference.after]
  | cons event rest inductionHypothesis =>
      rw [List.cons_append, Reference.answers, Reference.answers, inductionHypothesis,
        List.append_assoc]
      rfl

theorem initial_follows (settings : Settings) (positive : 0 < settings.recoveryStep) :
    Follows settings .initial (.initial settings) :=
  ⟨fun _ => .untouched _ rfl (settings.recovery (Nat.ne_of_gt positive))⟩

/-- What the service answers to a query after some events. -/
def answerAfter (settings : Settings) (events : List Event) (query : Event) : Option Nat :=
  (run settings .initial (events ++ [query])).bind fun result => result.1.getLast?

theorem answerAfter_eq (positive : 0 < settings.recoveryStep) {events : List Event} {query : Event}
    (asks : query.act = .query) (ordered : Ordered 0 (events ++ [query])) :
    answerAfter settings events query =
      some ((((Reference.initial settings).after settings events).advance settings
        query.time).rates (makeCongestionKey query.key)).value := by
  obtain ⟨after, ran⟩ := run_follows positive (initial_follows settings positive) ordered
  rw [answerAfter, ran, Option.bind_some, Reference.answers_append]
  simp [Reference.answer, asks]

end Queries

/-- No 64-bit result overflows, every query is answered with the rate of the eager process,
which lies between the floor and the line rate, and the queries before it make no difference. -/
theorem lazy_recovery_eager {settings : Settings} (positive : 0 < settings.recoveryStep)
    {events : List Event} (ordered : Ordered 0 events) :
    (∃ service, run settings .initial events =
        some ((Reference.initial settings).answers settings events, service)) ∧
      (∀ rate ∈ (Reference.initial settings).answers settings events,
        settings.floor ≤ rate ∧ rate ≤ settings.lineRate) ∧
      ∀ (others : List Event) (query : Event),
        others.filter Event.isCnp = events.filter Event.isCnp → query.act = .query →
        Ordered 0 (events ++ [query]) → Ordered 0 (others ++ [query]) →
        answerAfter settings others query = answerAfter settings events query := by
  have start := initial_follows settings positive
  refine ⟨run_follows positive start ordered, fun rate told =>
    answers_range positive start ordered told, fun others query same asks first second => ?_⟩
  have before {events : List Event} (ordered : Ordered 0 (events ++ [query])) :
      ∀ event ∈ events, event.time ≤ query.time := by
    intro event held
    have pairs := (List.pairwise_cons.mp ordered).2
    rw [List.map_append] at pairs
    exact (List.pairwise_append.mp pairs).2.2 _ (List.mem_map_of_mem held) _ (by simp)
  rw [answerAfter_eq positive asks first, answerAfter_eq positive asks second,
    Reference.after_filter (first.sublist (List.sublist_append_left _ _)) (before first),
    Reference.after_filter (second.sublist (List.sublist_append_left _ _)) (before second), same]

/-- Recovery by 250 Mbit/s in every 100 time steps. -/
def Settings.small : Settings where
  lineRate := 2000000000
  minimumRate := 125000000
  recoveryInterval := 100
  recoveryStep := 250000000
  lineRate_range := by decide
  minimumRate_range := by decide
  recoveryInterval_range := by decide
  recoveryStep_range := by decide
  recovery := by decide

/-- Two entities that share a congestion key. -/
def entity (source : UInt32) : EntityKey := ⟨source, 2, 3, 1⟩

def query (time : Fin 1000) : Event := ⟨time, entity 1, .query, by omega⟩
def cnp (time : Fin 1000) (source : UInt32) : Event := ⟨time, entity source, .cnp, by omega⟩

/-- The second CNP comes within the second interval of the first. -/
theorem lazy_recovery_eager_across_cnp :
    ∃ service, run .small .initial [cnp 0 1, query 99, query 100, cnp 150 9, query 150, query 249,
        query 250, query 900] =
      some ([1000000000, 1250000000, 625000000, 625000000, 875000000, 2000000000], service) := by
  have answers : (Reference.initial .small).answers .small [cnp 0 1, query 99, query 100,
      cnp 150 9, query 150, query 249, query 250, query 900] =
      [1000000000, 1250000000, 625000000, 625000000, 875000000, 2000000000] := by decide +kernel
  rw [← answers]
  exact (lazy_recovery_eager (by decide) (by decide)).1

end Udma.Ctp.Congestion
