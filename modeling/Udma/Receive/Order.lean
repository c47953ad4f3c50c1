import Udma.Receive.Ledger

/-!
# The order of the receives, and the consumers

Frames are received one at a time in the order of their arrival, every receive ends
once, and the consumer of a JFR counts the receives that have succeeded.
-/

namespace Udma.Receive.Queue

open Abi (Bytes Sge load32 load64 sgeBytes)
open Collections Transition
open Cq (Cqe Map)
open Ledger (Move Moves)

/-! ## What the trace tells -/

def Observation.arrival? : Observation → Option Arrival
  | .arrived arrival => some arrival
  | _ => none

def Observation.purged? : Observation → Option Nat
  | .purged number => some number
  | _ => none

def Observation.started? : Observation → Option Nat
  | .started number => some number
  | _ => none

def Observation.ended? : Observation → Option (Nat × Bool)
  | .ended number ok => some (number, ok)
  | _ => none

def Observation.consumed? : Observation → Option (Nat × Nat)
  | .consumed number jfrId => some (number, jfrId)
  | _ => none

def Observation.publishing? : Observation → Option Publishing
  | Observation.publishing call => some call
  | _ => none

/-- Observations about the order of the frames. -/
def Observation.ordering : Observation → Bool
  | .arrived _ | .purged _ | .started _ | .ended _ _ => true
  | _ => false

/-- The frames that have arrived, in order. -/
def arrivedOf (trace : List Observation) : List Arrival := trace.filterMap Observation.arrival?

/-- The frames that were dropped with their resource. -/
def purgedOf (trace : List Observation) : List Nat := trace.filterMap Observation.purged?

/-- The frames whose receive has started, in order. -/
def startedOf (trace : List Observation) : List Nat := trace.filterMap Observation.started?

/-- The frames whose receive has ended, in order, with the outcome. -/
def endedOf (trace : List Observation) : List (Nat × Bool) := trace.filterMap Observation.ended?

/-- The frames that have consumed an entry, in order, with the JFR. -/
def consumedOf (trace : List Observation) : List (Nat × Nat) :=
  trace.filterMap Observation.consumed?

/-- The calls of `WriteCqe` by the receive engine, in order. -/
def publishedOf (trace : List Observation) : List Publishing :=
  trace.filterMap Observation.publishing?

theorem purgedOf_purge (frames : List Arrival) :
    purgedOf (frames.map fun arrival => .purged arrival.number) = frames.map Arrival.number := by
  rw [purgedOf, List.filterMap_map, ← List.filterMap_eq_map]
  rfl

theorem filterMap_purge {Value : Type} {read : Observation → Option Value}
    (blind : ∀ number, read (.purged number) = none) (frames : List Arrival) :
    (frames.map fun arrival => Observation.purged arrival.number).filterMap read = [] := by
  rw [List.filterMap_map, List.filterMap_eq_nil_iff]
  exact fun arrival _ => blind arrival.number

variable {config : Config} {ledger next : Ledger}

/-! ## One at a time, in order -/

/-- The frames are started in the order of arrival, each after the one before has ended. -/
structure Ledger.Ordered (ledger : Ledger) : Prop where
  order : startedOf ledger.trace =
    (endedOf ledger.trace).map Prod.fst ++ ledger.receptions.map fun held => held.arrival.number
  queue : (startedOf ledger.trace ++ ledger.frames.map Arrival.number).Pairwise (· < ·)
  census : (startedOf ledger.trace ++ purgedOf ledger.trace ++
    ledger.frames.map Arrival.number).Perm (List.range ledger.arrivals)
  numbered : (arrivedOf ledger.trace).map Arrival.number = List.range ledger.arrivals
  known : ∀ arrival ∈ ledger.frames ++ ledger.receptions.map Reception.arrival,
    arrival ∈ arrivedOf ledger.trace

namespace Ledger.Ordered

/-- Nothing about the order of the frames changes. -/
theorem of_eq (ordered : ledger.Ordered) (frames : next.frames = ledger.frames)
    (receptions : next.receptions.map Reception.arrival =
      ledger.receptions.map Reception.arrival)
    (arrivals : next.arrivals = ledger.arrivals)
    (started : startedOf next.trace = startedOf ledger.trace)
    (ended : endedOf next.trace = endedOf ledger.trace)
    (purged : purgedOf next.trace = purgedOf ledger.trace)
    (arrived : arrivedOf next.trace = arrivedOf ledger.trace) : next.Ordered := by
  have numbers (list : List Reception) : (list.map fun held => held.arrival.number) =
      (list.map Reception.arrival).map Arrival.number := by simp
  refine ⟨?_, ?_, ?_, ?_, ?_⟩
  · rw [started, ended, numbers, receptions, ← numbers, ordered.order]
  · rw [started, frames]
    exact ordered.queue
  · rw [started, purged, frames, arrivals]
    exact ordered.census
  · rw [arrived, arrivals]
    exact ordered.numbered
  · rw [frames, receptions, arrived]
    exact ordered.known

/-- Something else is observed. -/
theorem observe (ordered : ledger.Ordered) {observation : Observation}
    (other : observation.ordering = false) :
    ({ ledger with trace := ledger.trace ++ [observation] } : Ledger).Ordered := by
  have blind : observation.started? = none ∧ observation.ended? = none ∧
      observation.purged? = none ∧ observation.arrival? = none := by
    cases observation <;> first | exact ⟨rfl, rfl, rfl, rfl⟩ | simp [Observation.ordering] at other
  obtain ⟨started, ended, purged, arrived⟩ := blind
  exact ordered.of_eq rfl rfl rfl (by simp [startedOf, started]) (by simp [endedOf, ended])
    (by simp [purgedOf, purged]) (by simp [arrivedOf, arrived])

/-- The only receive makes a DMA request, or comes back from one. -/
theorem request (ordered : ledger.Ordered) {arrival : Arrival} {stage : Stage}
    (shape : ledger.receptions = [⟨arrival, stage⟩]) (moved : Stage) {observation : Observation}
    (other : observation.ordering = false) :
    (ledger.request ⟨arrival, moved⟩ observation).Ordered :=
  (ordered.observe other).of_eq rfl (by simp [Ledger.request, shape]) rfl rfl rfl rfl rfl

theorem conclude (ordered : ledger.Ordered) {reception : Reception}
    (shape : ledger.receptions = [reception]) (ok : Bool) :
    (ledger.conclude reception.arrival.number ok).Ordered := by
  obtain ⟨order, queue, census, numbered, known⟩ := ordered
  have started : startedOf (ledger.conclude reception.arrival.number ok).trace =
      startedOf ledger.trace := by simp [Ledger.conclude, startedOf, Observation.started?]
  have purged : purgedOf (ledger.conclude reception.arrival.number ok).trace =
      purgedOf ledger.trace := by simp [Ledger.conclude, purgedOf, Observation.purged?]
  have arrived : arrivedOf (ledger.conclude reception.arrival.number ok).trace =
      arrivedOf ledger.trace := by simp [Ledger.conclude, arrivedOf, Observation.arrival?]
  refine ⟨?_, ?_, ?_, ?_, ?_⟩
  · rw [started, order, shape]
    simp [Ledger.conclude, endedOf, Observation.ended?]
  · rw [started]
    exact queue
  · rw [started, purged]
    exact census
  · rw [arrived]
    exact numbered
  · intro arrival held
    rw [arrived]
    refine known arrival ?_
    simp only [Ledger.conclude, List.map_nil, List.append_nil] at held
    exact List.mem_append_left _ held

/-- A receive in progress has not ended. -/
theorem unended (ordered : ledger.Ordered) {reception : Reception}
    (shape : ledger.receptions = [reception]) :
    reception.arrival.number ∉ (endedOf ledger.trace).map Prod.fst := by
  intro past
  have sorted := (List.pairwise_append.mp ordered.queue).1
  rw [ordered.order, shape, List.pairwise_append] at sorted
  exact lt_irrefl _ (sorted.2.2 _ past _ (List.mem_singleton_self _))

/-- The changes at the end of a receive before it is over. -/
theorem settle (ordered : ledger.Ordered) (ok : Bool) (number jfrId : Nat)
    (completion : Cq.State) :
    ({ if ok then ledger.consume number jfrId else ledger with
        completion := completion } : Ledger).Ordered := by
  cases ok with
  | false => exact ordered.of_eq rfl rfl rfl rfl rfl rfl rfl
  | true =>
      simp only [if_true, Ledger.consume]
      split
      next => exact ordered.of_eq rfl rfl rfl rfl rfl rfl rfl
      next =>
        have consumed : ({ ledger with
            trace := ledger.trace ++ [.consumed number jfrId] } : Ledger).Ordered :=
          ordered.observe rfl
        exact consumed.of_eq rfl rfl rfl rfl rfl rfl rfl

theorem move (ordered : ledger.Ordered) (moved : Move config ledger next) : next.Ordered := by
  cases moved with
  | aside command status =>
      exact ordered.observe rfl
  | arrived frame =>
      obtain ⟨order, queue, census, numbered, known⟩ := ordered
      have started : startedOf (ledger.trace ++ [.arrived ⟨ledger.arrivals, frame⟩]) =
          startedOf ledger.trace := by simp [startedOf, Observation.started?]
      have ended : endedOf (ledger.trace ++ [.arrived ⟨ledger.arrivals, frame⟩]) =
          endedOf ledger.trace := by simp [endedOf, Observation.ended?]
      have purged : purgedOf (ledger.trace ++ [.arrived ⟨ledger.arrivals, frame⟩]) =
          purgedOf ledger.trace := by simp [purgedOf, Observation.purged?]
      have arrived : arrivedOf (ledger.trace ++ [.arrived ⟨ledger.arrivals, frame⟩]) =
          arrivedOf ledger.trace ++ [⟨ledger.arrivals, frame⟩] := by
        simp [arrivedOf, Observation.arrival?]
      refine ⟨?_, ?_, ?_, ?_, ?_⟩
      · rw [started, ended]
        exact order
      · rw [started, List.map_append, ← List.append_assoc, List.pairwise_append]
        refine ⟨queue, by simp, fun number old other new => ?_⟩
        obtain rfl : other = ledger.arrivals := by simpa using new
        have counted : number ∈ List.range ledger.arrivals := by
          refine census.mem_iff.mp ?_
          simp only [List.mem_append] at old ⊢
          tauto
        exact List.mem_range.mp counted
      · rw [started, purged, List.range_succ, List.map_append, ← List.append_assoc]
        exact census.append_right _
      · rw [arrived, List.map_append, numbered, List.range_succ]
        rfl
      · intro arrival held
        rw [arrived]
        simp only [List.mem_append, List.mem_singleton] at held ⊢
        rcases held with (held | rfl) | held
        · exact .inl (known arrival (List.mem_append_left _ held))
        · exact .inr rfl
        · exact .inl (known arrival (List.mem_append_right _ held))
  | @started arrival rest queued free none =>
      obtain ⟨order, queue, census, numbered, known⟩ := ordered
      have started : startedOf (ledger.trace ++ [.started arrival.number]) =
          startedOf ledger.trace ++ [arrival.number] := by simp [startedOf, Observation.started?]
      have ended : endedOf (ledger.trace ++ [.started arrival.number]) =
          endedOf ledger.trace := by simp [endedOf, Observation.ended?]
      have purged : purgedOf (ledger.trace ++ [.started arrival.number]) =
          purgedOf ledger.trace := by simp [purgedOf, Observation.purged?]
      have arrived : arrivedOf (ledger.trace ++ [.started arrival.number]) =
          arrivedOf ledger.trace := by simp [arrivedOf, Observation.arrival?]
      rw [queued, List.map_cons] at queue census
      refine ⟨?_, ?_, ?_, ?_, ?_⟩
      · rw [started, ended, order, none]
        simp
      · rw [started, List.append_assoc]
        exact queue
      · rw [started, purged]
        refine List.Perm.trans ?_ census
        simp only [List.append_assoc]
        refine List.Perm.append_left _ ?_
        exact (@List.perm_middle _ _ (purgedOf ledger.trace) _).symm
      · rw [arrived]
        exact numbered
      · intro other held
        rw [arrived]
        refine known other ?_
        rw [queued]
        simp only [List.mem_append, List.map_cons, List.map_nil, List.mem_cons] at held ⊢
        tauto
  | @opened arrival jfrId jfr shape found =>
      have requested : (ledger.request ⟨arrival, .asking jfrId⟩
          (.dmaRead arrival.number jfr.token jfr.producerIova 4)).Ordered :=
        ordered.request shape _ rfl
      exact requested.of_eq rfl rfl rfl rfl rfl rfl rfl
  | asked shape found => exact ordered.request shape _ rfl
  | chosen shape found => exact ordered.of_eq rfl (by simp [shape]) rfl rfl rfl rfl rfl
  | fetched shape found => exact ordered.request shape _ rfl
  | scattered shape found => exact ordered.request shape _ rfl
  | written shape => exact ordered.request shape _ rfl
  | @published publishing sge jfr jetty shape =>
      have requested : (ledger.request publishing.reception (.publishing publishing)).Ordered :=
        ordered.request shape _ rfl
      exact requested.of_eq rfl rfl rfl rfl rfl rfl rfl
  | failed shape => exact ordered.conclude shape false
  | @concluded publishing ok completion shape =>
      have settled := ordered.settle ok publishing.arrival.number publishing.jfrId completion
      have still : ({ if ok then ledger.consume publishing.arrival.number publishing.jfrId
          else ledger with completion := completion } : Ledger).receptions =
          [publishing.reception] := by
        cases ok with
        | false => exact shape
        | true =>
            simp only [if_true, Ledger.consume]
            split <;> exact shape
      exact settled.conclude still ok
  | progressed => exact ordered.of_eq rfl rfl rfl rfl rfl rfl rfl
  | destroyed kept jfrId idle =>
      obtain ⟨order, queue, census, numbered, known⟩ := ordered
      have started (purged : List Arrival) : startedOf (ledger.trace ++
          purged.map fun arrival => .purged arrival.number) = startedOf ledger.trace := by
        rw [startedOf, List.filterMap_append, filterMap_purge (fun _ => rfl), List.append_nil]
        rfl
      have ended (purged : List Arrival) : endedOf (ledger.trace ++
          purged.map fun arrival => .purged arrival.number) = endedOf ledger.trace := by
        rw [endedOf, List.filterMap_append, filterMap_purge (fun _ => rfl), List.append_nil]
        rfl
      have arrived (purged : List Arrival) : arrivedOf (ledger.trace ++
          purged.map fun arrival => .purged arrival.number) = arrivedOf ledger.trace := by
        rw [arrivedOf, List.filterMap_append, filterMap_purge (fun _ => rfl), List.append_nil]
        rfl
      have purged (gone : List Arrival) : purgedOf (ledger.trace ++
          gone.map fun arrival => .purged arrival.number) =
            purgedOf ledger.trace ++ gone.map Arrival.number := by
        rw [purgedOf, List.filterMap_append]
        exact congrArg _ (purgedOf_purge gone)
      have kept_sublist : (ledger.frames.filter kept).Sublist ledger.frames :=
        List.filter_sublist
      refine ⟨?_, ?_, ?_, ?_, ?_⟩
      · rw [started, ended]
        exact order
      · rw [started]
        exact queue.sublist ((kept_sublist.map _).append_left _)
      · rw [started, purged]
        refine List.Perm.trans ?_ census
        simp only [List.append_assoc]
        refine List.Perm.append_left _ (List.Perm.append_left _ ?_)
        rw [← List.map_append]
        refine List.Perm.map _ ?_
        refine List.perm_append_comm.trans ?_
        exact List.filter_append_perm kept ledger.frames
      · rw [arrived]
        exact numbered
      · intro arrival held
        rw [arrived]
        refine known arrival ?_
        rcases List.mem_append.mp held with queued | held
        · exact List.mem_append_left _ (kept_sublist.subset queued)
        · exact List.mem_append_right _ held
  | @installed jfrId jfr =>
      have observed : ({ ledger with
          trace := ledger.trace ++ [.installed jfrId jfr] } : Ledger).Ordered := ordered.observe rfl
      exact observed.of_eq rfl rfl rfl rfl rfl rfl rfl

end Ledger.Ordered

/-! ## The consumers -/

/-- What an observation makes of the number of entries consumed from a JFR. -/
def Observation.tally (id count : Nat) : Observation → Nat
  | .installed jfrId _ => if jfrId = id then 0 else count
  | .consumed _ jfrId => if jfrId = id then count + 1 else count
  | _ => count

/-- How many entries have been consumed from a JFR since its context was created. -/
def consumedSince (id : Nat) (trace : List Observation) : Nat :=
  trace.foldl (Observation.tally id) 0

/-- The JFR that a receive uses. -/
def Stage.jfrId? : Stage → Option Nat
  | .opening => none
  | .asking jfrId | .choosing jfrId | .scattering jfrId _ _ _ | .reading jfrId _ _ _
  | .writing jfrId _ _ _ _ => some jfrId
  | .publishing call => some call.jfrId

/-- The context of a JFR without its consumer. -/
def Jfr.context (jfr : Jfr) : Jfr := { jfr with consumer := 0 }

/-- A consumer counts the successful receives since its JFR was created. -/
structure Ledger.Stocked (ledger : Ledger) : Prop where
  counted : ∀ id jfr, ledger.jfrs.lookup id = some jfr →
    jfr.consumer = consumedSince id ledger.trace
  created : ∀ id jfr, ledger.jfrs.lookup id = some jfr →
    .installed id jfr.context ∈ ledger.trace
  active : ∀ id, ledger.activeJfr = some id → (ledger.jfrs.lookup id).isSome = true
  present : ∀ held ∈ ledger.receptions, ∀ id ∈ held.stage.jfrId?, ledger.activeJfr = some id
  consumed : (consumedOf ledger.trace).map Prod.fst =
    ((endedOf ledger.trace).filter Prod.snd).map Prod.fst

/-- Observations about the consumers. -/
def Observation.stocking : Observation → Bool
  | .installed _ _ | .consumed _ _ | .ended _ _ => true
  | _ => false

namespace Ledger.Stocked

theorem of_eq (stocked : ledger.Stocked) (jfrs : next.jfrs = ledger.jfrs)
    (active : next.activeJfr = ledger.activeJfr) (trace : next.trace = ledger.trace)
    (present : ∀ held ∈ next.receptions, ∀ id ∈ held.stage.jfrId?, next.activeJfr = some id) :
    next.Stocked where
  counted := by
    rw [jfrs, trace]
    exact stocked.counted
  created := by
    rw [jfrs, trace]
    exact stocked.created
  active := by
    rw [jfrs, active]
    exact stocked.active
  present := present
  consumed := by
    rw [trace]
    exact stocked.consumed

theorem observe (stocked : ledger.Stocked) {observation : Observation}
    (other : observation.stocking = false) :
    ({ ledger with trace := ledger.trace ++ [observation] } : Ledger).Stocked := by
  have blind : observation.ended? = none ∧ observation.consumed? = none ∧
      ∀ id count, observation.tally id count = count := by
    cases observation <;>
      first | exact ⟨rfl, rfl, fun _ _ => rfl⟩ | simp [Observation.stocking] at other
  obtain ⟨ended, consumed, tally⟩ := blind
  refine ⟨?_, ?_, stocked.active, stocked.present, ?_⟩
  · intro id jfr found
    rw [stocked.counted id jfr found]
    simp [consumedSince, List.foldl_append, tally]
  · exact fun id jfr found => List.mem_append_left _ (stocked.created id jfr found)
  · have same := stocked.consumed
    simp only [consumedOf, endedOf, List.filterMap_append, List.filterMap_cons_none consumed,
      List.filterMap_cons_none ended, List.filterMap_nil, List.append_nil] at same ⊢
    exact same

theorem observe_all (stocked : ledger.Stocked) {observations : List Observation}
    (others : ∀ observation ∈ observations, observation.stocking = false) :
    ({ ledger with trace := ledger.trace ++ observations } : Ledger).Stocked := by
  induction observations generalizing ledger with
  | nil => exact stocked.of_eq rfl rfl (by simp) stocked.present
  | cons observation rest inductionHypothesis =>
      have first := stocked.observe (others observation List.mem_cons_self)
      have all := inductionHypothesis first fun other member =>
        others other (List.mem_cons_of_mem _ member)
      exact all.of_eq rfl rfl (by simp) all.present

theorem request (stocked : ledger.Stocked) {arrival : Arrival} {stage moved : Stage}
    {observation : Observation} (shape : ledger.receptions = [⟨arrival, stage⟩])
    (other : observation.stocking = false) (same : moved.jfrId? = stage.jfrId?) :
    (ledger.request ⟨arrival, moved⟩ observation).Stocked := by
  refine (stocked.observe other).of_eq rfl rfl rfl ?_
  intro held member id own
  obtain rfl : held = ⟨arrival, moved⟩ := by simpa [Ledger.request] using member
  exact stocked.present ⟨arrival, stage⟩ (by simp [shape]) id (same ▸ own)

theorem fail (stocked : ledger.Stocked) (number : Nat) :
    (ledger.conclude number false).Stocked where
  counted := by
    intro id jfr found
    rw [stocked.counted id jfr found]
    simp [Ledger.conclude, consumedSince, Observation.tally]
  created := fun id jfr found => List.mem_append_left _ (stocked.created id jfr found)
  active := by simp [Ledger.conclude]
  present := by simp [Ledger.conclude]
  consumed := by
    have same := stocked.consumed
    simp only [Ledger.conclude, consumedOf, endedOf, List.filterMap_append, List.filter_append,
      List.map_append] at same ⊢
    rw [same]
    rfl

/-- A successful receive: its JFR is there, and its consumer moves on. -/
theorem succeed (stocked : ledger.Stocked) {publishing : Publishing} (completion : Cq.State)
    (shape : ledger.receptions = [publishing.reception]) :
    ({ ledger.consume publishing.arrival.number publishing.jfrId with
        completion := completion }.conclude publishing.arrival.number true).Stocked := by
  have active : ledger.activeJfr = some publishing.jfrId :=
    stocked.present publishing.reception (by simp [shape]) _ rfl
  obtain ⟨own, found⟩ := Option.isSome_iff_exists.mp (stocked.active _ active)
  simp only [Ledger.consume, found]
  refine ⟨?_, ?_, by simp [Ledger.conclude], by simp [Ledger.conclude], ?_⟩
  · intro id jfr present
    simp only [Ledger.conclude] at present
    by_cases same : id = publishing.jfrId
    · subst same
      simp only [AList.lookup_insert, Option.some.injEq] at present
      subst present
      have before := stocked.counted _ own found
      simp [Ledger.conclude, consumedSince, Observation.tally, before]
    · rw [AList.lookup_insert_ne same] at present
      have before := stocked.counted id jfr present
      simp [Ledger.conclude, consumedSince, Observation.tally, before, Ne.symm same]
  · intro id jfr present
    simp only [Ledger.conclude, List.append_assoc] at present ⊢
    refine List.mem_append_left _ ?_
    by_cases same : id = publishing.jfrId
    · subst same
      simp only [AList.lookup_insert, Option.some.injEq] at present
      subst present
      exact stocked.created _ own found
    · rw [AList.lookup_insert_ne same] at present
      exact stocked.created id jfr present
  · have same := stocked.consumed
    simp only [Ledger.conclude, consumedOf, endedOf, List.filterMap_append, List.filter_append,
      List.map_append] at same ⊢
    rw [same, List.append_assoc, List.append_assoc]
    rfl

/-- The JFRs that are left after a destroy command were there before it. -/
theorem lookup_of_destroyed {jfrs : Map Jfr} {jfrId : Option Nat} {id : Nat} {jfr : Jfr}
    (found : (match jfrId with
      | none => jfrs
      | some id => jfrs.erase id).lookup id = some jfr) : jfrs.lookup id = some jfr := by
  cases jfrId with
  | none => exact found
  | some erased =>
      by_cases same : id = erased
      · rw [same, AList.lookup_erase] at found
        cases found
      · simpa [AList.lookup_erase_ne same] using found

theorem move (stocked : ledger.Stocked) (moved : Move config ledger next) : next.Stocked := by
  cases moved with
  | aside command status => exact stocked.observe rfl
  | arrived frame =>
      have observed : ({ ledger with
          trace := ledger.trace ++ [.arrived ⟨ledger.arrivals, frame⟩] } : Ledger).Stocked :=
        stocked.observe rfl
      exact observed.of_eq rfl rfl rfl observed.present
  | @started arrival rest queued free none =>
      have observed : ({ ledger with
          trace := ledger.trace ++ [.started arrival.number] } : Ledger).Stocked :=
        stocked.observe rfl
      refine observed.of_eq rfl rfl rfl ?_
      intro held member id own
      obtain rfl : held = ⟨arrival, .opening⟩ := by simpa using member
      simp [Stage.jfrId?] at own
  | @opened arrival jfrId jfr shape found =>
      have observed : ({ ledger with trace := ledger.trace ++
          [.dmaRead arrival.number jfr.token jfr.producerIova 4] } : Ledger).Stocked :=
        stocked.observe rfl
      refine ⟨observed.counted, observed.created, ?_, ?_, observed.consumed⟩
      · intro id own
        obtain rfl : jfrId = id := by simpa using own
        change (ledger.jfrs.lookup jfrId).isSome = true
        simp [found]
      · intro held member id own
        obtain rfl : held = ⟨arrival, .asking jfrId⟩ := by simpa [Ledger.request] using member
        exact own
  | asked shape => exact stocked.request shape rfl rfl
  | @chosen arrival jfrId rqe jfr shape =>
      refine stocked.of_eq rfl rfl rfl ?_
      intro held member id own
      obtain rfl := List.mem_singleton.mp member
      exact stocked.present ⟨arrival, .choosing jfrId⟩ (by simp [shape]) id own
  | fetched shape => exact stocked.request shape rfl rfl
  | scattered shape => exact stocked.request shape rfl rfl
  | written shape => exact stocked.request shape rfl rfl
  | @published publishing sge jfr jetty shape =>
      have requested : (ledger.request publishing.reception (.publishing publishing)).Stocked :=
        stocked.request shape rfl rfl
      exact requested.of_eq rfl rfl rfl requested.present
  | @failed reception => exact stocked.fail reception.arrival.number
  | @concluded publishing ok completion shape =>
      cases ok with
      | true => exact stocked.succeed completion shape
      | false =>
          have moved : ({ ledger with completion := completion } : Ledger).Stocked :=
            stocked.of_eq rfl rfl rfl stocked.present
          exact moved.fail publishing.arrival.number
  | progressed => exact stocked.of_eq rfl rfl rfl stocked.present
  | destroyed kept jfrId idle =>
      have purged : ({ ledger with trace := ledger.trace ++
          ((ledger.frames.filter fun arrival => !kept arrival).map fun arrival =>
            .purged arrival.number) } : Ledger).Stocked := by
        refine stocked.observe_all fun observation member => ?_
        obtain ⟨arrival, _, rfl⟩ := List.mem_map.mp member
        rfl
      refine ⟨fun id jfr found => purged.counted id jfr (lookup_of_destroyed found),
        fun id jfr found => purged.created id jfr (lookup_of_destroyed found), ?_, stocked.present,
        purged.consumed⟩
      intro id own
      have known := stocked.active id own
      cases jfrId with
      | none => exact known
      | some erased =>
          have other : id ≠ erased := by
            rintro rfl
            exact idle id rfl own
          simpa [AList.lookup_erase_ne other] using known
  | @installed jfrId jfr vacant fresh =>
      refine ⟨?_, ?_, ?_, stocked.present, ?_⟩
      · intro id other present
        by_cases same : id = jfrId
        · subst same
          simp only [AList.lookup_insert, Option.some.injEq] at present
          subst present
          simp [consumedSince, Observation.tally, fresh]
        · rw [AList.lookup_insert_ne same] at present
          have before := stocked.counted id other present
          simp [consumedSince, Observation.tally, before, Ne.symm same]
      · intro id other present
        by_cases same : id = jfrId
        · subst same
          simp only [AList.lookup_insert, Option.some.injEq] at present
          subst present
          refine List.mem_append_right _ ?_
          simp [Jfr.context, ← fresh]
        · rw [AList.lookup_insert_ne same] at present
          exact List.mem_append_left _ (stocked.created id other present)
      · intro id own
        by_cases same : id = jfrId
        · rw [same, AList.lookup_insert]
          rfl
        · rw [AList.lookup_insert_ne same]
          exact stocked.active id own
      · have consumed : consumedOf (ledger.trace ++ [.installed jfrId jfr]) =
            consumedOf ledger.trace := by
          rw [consumedOf, List.filterMap_append]
          exact List.append_nil _
        have ended : endedOf (ledger.trace ++ [.installed jfrId jfr]) = endedOf ledger.trace := by
          rw [endedOf, List.filterMap_append]
          exact List.append_nil _
        rw [consumed, ended]
        exact stocked.consumed

end Ledger.Stocked

end Udma.Receive.Queue
