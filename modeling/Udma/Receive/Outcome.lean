import Udma.Receive.Scatter

/-!
# The CQE of a receive, and its outcome

A receive publishes at most once, and its end has the outcome that the completion engine
reports to it.
-/

namespace Udma.Receive.Queue

open Abi (Bytes Sge load32 load64 sgeBytes)
open Collections Transition
open Cq (Cqe Map tellingOf announcedFor)
open Ledger (Move Moves)

variable {config : Config} {ledger next : Ledger}

theorem finishedCall_eq (completion : Cq.State) (event : Cq.Event) :
    finishedCall completion event = completion.telling event := by
  cases event with
  | run =>
      cases shape : completion.stack with
      | nil => simp [finishedCall, Cq.State.telling, shape]
      | cons task rest =>
          cases task <;> simp [finishedCall, Cq.State.telling, shape, Cq.Task.telling]
  | _ => rfl

/-- `WriteCqe` is asked for a CQE. -/
theorem writeCqe_announced (completion : Cq.State) (id : Nat) (cqe : Cqe) :
    ∃ origin, ⟨completion.calls, origin, cqe⟩ ∈
      announcedFor id (Cq.writeCqe completion id cqe).trace := by
  refine ⟨(completion.jfcs.lookup id).map Cq.Jfc.generation, ?_⟩
  refine Cq.mem_calledOf.mp ?_
  rw [(Cq.writeCqe_told completion id cqe).2.1]
  exact List.mem_append_right _ (List.mem_singleton_self _)

/-- What is known of a call of `WriteCqe`. -/
structure Publishing.Asked (completion : Cq.State) (arrived : List Arrival)
    (publishing : Publishing) : Prop where
  called : publishing.call < completion.calls
  announced : ∃ origin, ⟨publishing.call, origin, publishing.cqe⟩ ∈
    announcedFor publishing.jfcId completion.trace
  entry : publishing.cqe = receiveCqe publishing.arrival.frame publishing.rqe
  known : publishing.arrival ∈ arrived

theorem Publishing.Asked.grow {completion later : Cq.State} {arrived more : List Arrival}
    {publishing : Publishing} (asked : publishing.Asked completion arrived)
    (calls : completion.calls ≤ later.calls) (grows : completion.trace <+: later.trace)
    (known : arrived ⊆ more) : publishing.Asked later more := by
  obtain ⟨called, ⟨origin, announced⟩, entry, own⟩ := asked
  exact ⟨called.trans_le calls, ⟨origin, (grows.filterMap _).subset announced⟩, entry, known own⟩

/-- The outcomes of the receives. -/
structure Ledger.Settled (config : Config) (ledger : Ledger) : Prop where
  ran : Reaches (Cq.step config.completion) always .initial ledger.completion
  asked : ∀ call ∈ publishedOf ledger.trace,
    call.Asked ledger.completion (arrivedOf ledger.trace)
  waiting : ∀ call : Publishing, call.reception ∈ ledger.receptions →
    call ∈ publishedOf ledger.trace ∧ ∀ ok, (call.call, ok) ∉ tellingOf ledger.completion.trace
  told : ∀ call ∈ publishedOf ledger.trace, ∀ ok,
    (call.arrival.number, ok) ∈ endedOf ledger.trace →
      (call.call, ok) ∈ tellingOf ledger.completion.trace
  once : ((publishedOf ledger.trace).map fun call => call.arrival.number).Nodup
  success : ∀ number, (number, true) ∈ endedOf ledger.trace →
    ∃ call ∈ publishedOf ledger.trace, call.arrival.number = number ∧
      (number, call.jfrId) ∈ consumedOf ledger.trace

namespace Ledger.Settled

/-- No receive publishes or ends. -/
theorem same (settled : ledger.Settled config) {observations : List Observation}
    (completion : next.completion = ledger.completion)
    (trace : next.trace = ledger.trace ++ observations)
    (published : publishedOf observations = []) (ended : endedOf observations = [])
    (receptions : ∀ call : Publishing, call.reception ∈ next.receptions →
      call.reception ∈ ledger.receptions) : next.Settled config := by
  have calls : publishedOf next.trace = publishedOf ledger.trace := by
    rw [trace, publishedOf, List.filterMap_append, ← publishedOf, ← publishedOf, published,
      List.append_nil]
  have ends : endedOf next.trace = endedOf ledger.trace := by
    rw [trace, endedOf, List.filterMap_append, ← endedOf, ← endedOf, ended, List.append_nil]
  refine ⟨completion ▸ settled.ran, ?_, ?_, ?_, calls ▸ settled.once, ?_⟩
  · intro call member
    rw [completion]
    refine (settled.asked call (calls ▸ member)).grow le_rfl (List.prefix_refl _) ?_
    rw [trace]
    exact ((List.prefix_append ledger.trace observations).filterMap _).subset
  · intro call held
    rw [calls, completion]
    exact settled.waiting call (receptions call held)
  · intro call member ok past
    rw [completion]
    exact settled.told call (calls ▸ member) ok (ends ▸ past)
  · intro number past
    obtain ⟨call, member, own, consumed⟩ := settled.success number (ends ▸ past)
    refine ⟨call, calls ▸ member, own, ?_⟩
    rw [trace, consumedOf, List.filterMap_append]
    exact List.mem_append_left _ consumed

/-- The completion engine makes a step. -/
theorem progress (settled : ledger.Settled config) {event : Cq.Event} {completion : Cq.State}
    (taken : Cq.step config.completion ledger.completion event = some completion)
    (unaware : ∀ call ok, ∀ publishing : Publishing,
      finishedCall ledger.completion event = some (call, ok) →
      publishing.reception ∈ ledger.receptions → publishing.call ≠ call) :
    ({ ledger with completion := completion } : Ledger).Settled config := by
  obtain ⟨grows, telling⟩ := Cq.trace_grows settled.ran taken
  have calls := Cq.calls_mono settled.ran taken trivial
  refine ⟨settled.ran.tail taken trivial, ?_, ?_, ?_, settled.once, settled.success⟩
  · intro call member
    exact (settled.asked call member).grow calls grows (List.Subset.refl _)
  · intro call held
    obtain ⟨published, untold⟩ := settled.waiting call held
    refine ⟨published, fun ok told => ?_⟩
    change (call.call, ok) ∈ tellingOf completion.trace at told
    rw [telling, List.mem_append] at told
    refine told.elim (untold ok) fun now => ?_
    rw [← finishedCall_eq, Option.mem_toList] at now
    exact unaware call.call ok call now held rfl
  · intro call member ok past
    change (call.call, ok) ∈ tellingOf completion.trace
    rw [telling]
    exact List.mem_append_left _ (settled.told call member ok past)

/-- A receive is over; it has published nothing, or its outcome is what it was told. -/
theorem conclude (settled : ledger.Settled config) (ordered : ledger.Ordered)
    (served : ledger.Served) {reception : Reception} {ok : Bool} {observations : List Observation}
    (shape : ledger.receptions = [reception]) (receptions : next.receptions = [])
    (ran : Reaches (Cq.step config.completion) always .initial next.completion)
    (called : ledger.completion.calls ≤ next.completion.calls)
    (grows : ledger.completion.trace <+: next.completion.trace)
    (trace : next.trace = ledger.trace ++ observations)
    (published : publishedOf observations = [])
    (ended : endedOf observations = [(reception.arrival.number, ok)])
    (outcome : ∀ call : Publishing, reception = call.reception →
      (call.call, ok) ∈ tellingOf next.completion.trace)
    (consumed : ok = true → ∃ call : Publishing, reception = call.reception ∧
      (reception.arrival.number, call.jfrId) ∈ consumedOf observations)
    (asked : ∀ call : Publishing, reception = call.reception → call ∈ publishedOf ledger.trace) :
    next.Settled config := by
  have calls : publishedOf next.trace = publishedOf ledger.trace := by
    rw [trace, publishedOf, List.filterMap_append, ← publishedOf, ← publishedOf, published,
      List.append_nil]
  have ends : endedOf next.trace =
      endedOf ledger.trace ++ [(reception.arrival.number, ok)] := by
    rw [trace, endedOf, List.filterMap_append, ← endedOf, ← endedOf, ended]
  have fresh := ordered.unended shape
  refine ⟨ran, ?_, by simp [receptions], ?_, calls ▸ settled.once, ?_⟩
  · intro call member
    refine (settled.asked call (calls ▸ member)).grow called grows ?_
    rw [trace]
    exact ((List.prefix_append ledger.trace observations).filterMap _).subset
  · intro call member other past
    rw [calls] at member
    rw [ends, List.mem_append] at past
    rcases past with old | new
    · exact (grows.filterMap _).subset (settled.told call member other old)
    · obtain ⟨number, rfl⟩ := Prod.mk.inj (List.mem_singleton.mp new)
      rcases served.placed call member with held | past
      · rw [shape, List.mem_singleton] at held
        exact outcome call held.symm
      · rw [number] at past
        exact absurd past fresh
  · intro number past
    rw [ends, List.mem_append] at past
    rw [calls, trace, consumedOf, List.filterMap_append]
    rcases past with old | new
    · obtain ⟨call, member, own, used⟩ := settled.success number old
      exact ⟨call, member, own, List.mem_append_left _ used⟩
    · obtain ⟨rfl, rfl⟩ := Prod.mk.inj (List.mem_singleton.mp new)
      obtain ⟨call, own, used⟩ := consumed rfl
      refine ⟨call, asked call own, ?_, List.mem_append_right _ used⟩
      rw [own]
      rfl

/-- A receive publishes. -/
theorem publish (settled : ledger.Settled config) (ordered : ledger.Ordered)
    (served : ledger.Served) {publishing : Publishing} {stage : Stage}
    (shape : ledger.receptions = [⟨publishing.arrival, stage⟩])
    (unpublished : ∀ call : Publishing, (⟨publishing.arrival, stage⟩ : Reception) ≠ call.reception)
    (call : publishing.call = ledger.completion.calls)
    (entry : publishing.cqe = receiveCqe publishing.arrival.frame publishing.rqe)
    (idle : ledger.completion.atBoundary = true) :
    ({ ledger.request publishing.reception (.publishing publishing) with
        completion := Cq.writeCqe ledger.completion publishing.jfcId publishing.cqe } :
      Ledger).Settled config := by
  have taken : Cq.step config.completion ledger.completion
      (.writeCqe publishing.jfcId publishing.cqe) =
        some (Cq.writeCqe ledger.completion publishing.jfcId publishing.cqe) := by
    unfold Cq.step
    simp [idle, Cq.environment]
  have stepped := settled.progress taken (by simp [finishedCall])
  have telling := (Cq.trace_grows settled.ran taken).2
  have calls : publishedOf (ledger.trace ++ [.publishing publishing]) =
      publishedOf ledger.trace ++ [publishing] := by
    simp [publishedOf, Observation.publishing?]
  have ends : endedOf (ledger.trace ++ [.publishing publishing]) = endedOf ledger.trace := by
    simp [endedOf, Observation.ended?]
  have arrived : arrivedOf (ledger.trace ++ [.publishing publishing]) =
      arrivedOf ledger.trace := by
    simp [arrivedOf, Observation.arrival?]
  have consumed : consumedOf (ledger.trace ++ [.publishing publishing]) =
      consumedOf ledger.trace := by
    simp [consumedOf, Observation.consumed?]
  have fresh : publishing.arrival.number ∉ (endedOf ledger.trace).map Prod.fst :=
    ordered.unended shape
  have past : ∀ other ∈ publishedOf ledger.trace,
      other.arrival.number ∈ (endedOf ledger.trace).map Prod.fst := by
    intro other member
    refine (served.placed other member).resolve_left fun held => ?_
    rw [shape, List.mem_singleton] at held
    exact unpublished other held.symm
  refine ⟨stepped.ran, ?_, ?_, ?_, ?_, ?_⟩
  · intro other member
    change other.Asked _ (arrivedOf (ledger.trace ++ [.publishing publishing]))
    rw [arrived]
    change other ∈ publishedOf (ledger.trace ++ [.publishing publishing]) at member
    rw [calls, List.mem_append, List.mem_singleton] at member
    rcases member with old | rfl
    · exact stepped.asked other old
    · refine ⟨?_, ?_, entry, ?_⟩
      · rw [call, (Cq.writeCqe_told _ _ _).2.2]
        exact Nat.lt_succ_self _
      · rw [call]
        exact writeCqe_announced ledger.completion other.jfcId other.cqe
      · exact ordered.known _ (by simp [shape])
  · intro other held
    have same : other.reception = publishing.reception := List.mem_singleton.mp held
    obtain rfl : other = publishing := by
      simpa [Publishing.reception] using (Reception.mk.inj same).2
    refine ⟨?_, fun ok told => ?_⟩
    · change other ∈ publishedOf (ledger.trace ++ [.publishing other])
      rw [calls]
      exact List.mem_append_right _ (List.mem_singleton_self _)
    · change (other.call, ok) ∈ tellingOf (Cq.writeCqe _ _ _).trace at told
      rw [telling] at told
      replace told : (other.call, ok) ∈ tellingOf ledger.completion.trace := by
        simpa [Cq.State.telling] using told
      have below := Cq.told_called settled.ran told
      omega
  · intro other member ok ended
    change other ∈ publishedOf (ledger.trace ++ [.publishing publishing]) at member
    change (other.arrival.number, ok) ∈ endedOf (ledger.trace ++ [.publishing publishing]) at ended
    rw [ends] at ended
    rw [calls, List.mem_append, List.mem_singleton] at member
    rcases member with old | rfl
    · exact stepped.told other old ok ended
    · exact absurd (List.mem_map.mpr ⟨_, ended, rfl⟩) fresh
  · change ((publishedOf (ledger.trace ++ [.publishing publishing])).map _).Nodup
    rw [calls, List.map_append, List.nodup_append]
    refine ⟨settled.once, by simp, ?_⟩
    rintro number old other new rfl
    obtain rfl : number = publishing.arrival.number := by simpa using new
    obtain ⟨other, member, same⟩ := List.mem_map.mp old
    exact fresh (same ▸ past other member)
  · intro number ended
    change (number, true) ∈ endedOf (ledger.trace ++ [.publishing publishing]) at ended
    rw [ends] at ended
    obtain ⟨other, member, own, used⟩ := settled.success number ended
    change ∃ call ∈ publishedOf (ledger.trace ++ [.publishing publishing]), _ ∧
      _ ∈ consumedOf (ledger.trace ++ [.publishing publishing])
    rw [calls, consumed]
    exact ⟨other, List.mem_append_left _ member, own, used⟩

theorem move (settled : ledger.Settled config) (ordered : ledger.Ordered)
    (stocked : ledger.Stocked) (served : ledger.Served) (moved : Move config ledger next) :
    next.Settled config := by
  cases moved with
  | aside command status => exact settled.same rfl rfl rfl rfl fun _ => id
  | arrived frame => exact settled.same rfl rfl rfl rfl fun _ => id
  | started _ _ none =>
      exact settled.same rfl rfl rfl rfl (by simp [Publishing.reception])
  | opened | asked | fetched | scattered | written =>
      exact settled.same rfl rfl rfl rfl (by simp [Ledger.request, Publishing.reception])
  | chosen =>
      exact settled.same rfl (List.append_nil _).symm rfl rfl (by simp [Publishing.reception])
  | @published publishing sge jfr jetty shape call entry found jfc idle =>
      exact settled.publish ordered served shape (by simp [Publishing.reception]) call entry idle
  | @failed reception shape unpublished =>
      exact settled.conclude ordered served shape rfl settled.ran le_rfl (List.prefix_refl _) rfl
        rfl rfl (fun call own => absurd own (unpublished call)) (by simp)
        (fun call own => absurd own (unpublished call))
  | @concluded publishing ok completion shape stepped told =>
      obtain ⟨grows, telling⟩ := Cq.trace_grows settled.ran stepped
      have ran := settled.ran.tail stepped trivial
      have calls := Cq.calls_mono settled.ran stepped trivial
      have own {call : Publishing} (same : publishing.reception = call.reception) :
          call = publishing := by
        simpa [Publishing.reception] using (Reception.mk.inj same).2.symm
      have outcome : ∀ call : Publishing, publishing.reception = call.reception →
          (call.call, ok) ∈ tellingOf completion.trace := by
        intro call same
        obtain rfl := own same
        rw [telling, ← finishedCall_eq, told]
        exact List.mem_append_right _ (List.mem_singleton_self _)
      have asked : ∀ call : Publishing, publishing.reception = call.reception →
          call ∈ publishedOf ledger.trace := by
        intro call same
        obtain rfl := own same
        exact (settled.waiting call (by simp [shape])).1
      cases ok with
      | false =>
          exact settled.conclude ordered served shape rfl ran calls grows rfl rfl rfl outcome (by simp)
            asked
      | true =>
          have active := stocked.present publishing.reception (by simp [shape]) _ rfl
          obtain ⟨jfr, found⟩ := Option.isSome_iff_exists.mp (stocked.active _ active)
          simp only [if_true, Ledger.consume, found]
          have trace := List.append_assoc ledger.trace
            [.consumed publishing.arrival.number publishing.jfrId]
            [.ended publishing.arrival.number true]
          exact settled.conclude ordered served shape rfl ran calls grows trace rfl rfl outcome
            (fun _ => ⟨publishing, rfl, List.mem_singleton_self _⟩) asked
  | progressed taken unaware => exact settled.progress taken unaware
  | destroyed kept jfrId idle =>
      exact settled.same rfl rfl (filterMap_purge (fun _ => rfl) _)
        (filterMap_purge (fun _ => rfl) _) fun _ => id
  | installed => exact settled.same rfl rfl rfl rfl fun _ => id

end Ledger.Settled

end Udma.Receive.Queue
