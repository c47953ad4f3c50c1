import Udma.Sq.Emission
import Udma.Sq.Owners

/-!
# Order of the `WriteCqe` calls

The calls made for a send queue follow its reservations: the retired descriptors
and those whose publication has begun are an initial part of what was reserved, and
each of them that asks for a completion has had its call.  A call tells the truth
about its descriptor because only the owner of an entry completes it.
-/

namespace Udma.Sq

open Udma.Abi Udma.Arithmetic Udma.Collections Udma.Transition

/-! ## What a trace says -/

def Observation.submittedCall : Observation → Option (Nat × CqeCall)
  | .submitted _ position call => some (position, call)
  | _ => none

/-- The `WriteCqe` calls in the trace, each with the position of its descriptor. -/
def submittedIn (trace : List Observation) : List (Nat × CqeCall) :=
  trace.filterMap Observation.submittedCall

/-- `CompleteSq` was called for the descriptor. -/
def CompletedIn (id : Nat) (trace : List Observation) (request : SqRequest) : Prop :=
  ∃ status substatus, .completed id request status substatus ∈ trace

/-- The call reports the descriptor, with the status `CompleteSq` was called with. -/
structure CqeCall.For (id : Nat) (trace : List Observation) (call : Nat × CqeCall)
    (request : SqRequest) : Prop where
  position : call.1 = request.position
  opcode : call.2.opcode = request.opcode
  entryIndex : call.2.entryIndex = request.completedIndex
  byteCount : call.2.byteCount = request.byteCount
  immediate : call.2.immediate = request.immediate
  status : .completed id request call.2.status call.2.substatus ∈ trace

/-- At a call every older descriptor has been completed. -/
def Observation.inTurn (id : Nat) (before : List Observation) (observation : Observation) : Prop :=
  ∀ position call, observation = .submitted id position call →
    ∃ older request younger, reservedIn before = older ++ request :: younger ∧
      request.position = position ∧ ∀ other ∈ older ++ [request], CompletedIn id before other

theorem CompletedIn.mono {id : Nat} {trace longer : List Observation} {request : SqRequest}
    (completed : CompletedIn id trace request) (kept : trace ⊆ longer) :
    CompletedIn id longer request := by
  obtain ⟨status, substatus, membership⟩ := completed
  exact ⟨status, substatus, kept membership⟩

theorem CqeCall.For.mono {id : Nat} {trace longer : List Observation} {call : Nat × CqeCall}
    {request : SqRequest} (reports : CqeCall.For id trace call request) (kept : trace ⊆ longer) :
    CqeCall.For id longer call request :=
  { reports with status := kept reports.status }

/-- An observation that is no reservation, retirement or call. -/
def Observation.aside : Observation → Bool
  | .reserved _ _ => false
  | .retired _ _ => false
  | .submitted _ _ _ => false
  | _ => true

section Trace

variable {first second : List Observation}

@[simp] theorem submittedIn_append :
    submittedIn (first ++ second) = submittedIn first ++ submittedIn second :=
  List.filterMap_append

theorem trace_aside (aside : ∀ item ∈ second, item.aside = true) :
    reservedIn second = [] ∧ retiredIn second = [] ∧ submittedIn second = [] := by
  refine ⟨List.filterMap_eq_nil_iff.mpr ?_, List.filterMap_eq_nil_iff.mpr ?_,
    List.filterMap_eq_nil_iff.mpr ?_⟩
  all_goals
    intro item membership
    have := aside item membership
    cases item <;> simp_all [Observation.aside, Observation.reservedRequest,
      Observation.retiredRequest, Observation.submittedCall]

theorem submittedIn_retired (id : Nat) (entries : List SqCompletion) :
    submittedIn (entries.map fun front => Observation.retired id front.request) = [] :=
  List.filterMap_eq_nil_iff.mpr (by simp [Observation.submittedCall])

theorem reservedIn_retirement (id : Nat) (entries : List SqCompletion) :
    reservedIn (entries.map fun front => Observation.retired id front.request) = [] :=
  List.filterMap_eq_nil_iff.mpr (by simp [Observation.reservedRequest])

theorem retiredIn_retirement (id : Nat) (entries : List SqCompletion) :
    retiredIn (entries.map fun front => Observation.retired id front.request) =
      entries.map SqCompletion.request := by
  simp [retiredIn, List.filterMap_map, Function.comp_def, Observation.retiredRequest]

end Trace

/-! ## The account -/

/-- A ready entry says of its descriptor what `CompleteSq` was called with. -/
structure SqCompletion.Faithful (id : Nat) (trace : List Observation) (entry : SqCompletion) :
    Prop where
  opcode : entry.opcode = entry.request.opcode
  bytes : entry.bytes = entry.request.byteCount
  immediate : entry.immediate = entry.request.immediate
  enabled : entry.enabled = entry.request.completion
  status : .completed id entry.request entry.status entry.substatus ∈ trace

namespace Ledger

/-- The entries whose publication has begun. -/
def begun (pipelined : Bool) (ledger : Ledger) : List SqCompletion :=
  if pipelined then ledger.entries.takeWhile (·.publicationStarted)
  else ledger.entries.take ledger.publishing.toNat

structure Accounted (pipelined : Bool) (id : Nat) (ledger : Ledger) : Prop where
  reserved : reservedIn ledger.history =
    retiredIn ledger.history ++ ledger.entries.map SqCompletion.request
  faithful : ∀ entry ∈ ledger.entries, entry.ready = true → entry.Faithful id ledger.history
  retired : ∀ request ∈ retiredIn ledger.history, CompletedIn id ledger.history request
  busy : ledger.publishing = true → pipelined = false → ledger.entries ≠ []
  calls : List.Forall₂ (CqeCall.For id ledger.history) (submittedIn ledger.history)
    ((retiredIn ledger.history ++
      (ledger.begun pipelined).map SqCompletion.request).filter (·.completion))
  turns : Throughout (Observation.inTurn id) ledger.history

variable {pipelined : Bool} {id : Nat} {tardy lossy : Prop} {ledger next : Ledger}

/-- Nothing is reserved, submitted or retired. -/
theorem Accounted.keep (accounted : ledger.Accounted pipelined id) {added : List Observation}
    (history : next.history = ledger.history ++ added)
    (aside : ∀ item ∈ added, item.aside = true)
    (requests : next.entries.map SqCompletion.request =
      ledger.entries.map SqCompletion.request)
    (begun : (next.begun pipelined).map SqCompletion.request =
      (ledger.begun pipelined).map SqCompletion.request)
    (publishing : next.publishing = ledger.publishing)
    (faithful : ∀ entry ∈ next.entries, entry.ready = true →
      entry ∈ ledger.entries ∨ entry.Faithful id next.history) :
    next.Accounted pipelined id := by
  obtain ⟨reservedSame, retiredSame, submittedSame⟩ := trace_aside aside
  have kept : ledger.history ⊆ next.history := by simp [history]
  refine ⟨?_, ?_, ?_, ?_, ?_, ?_⟩
  · rw [requests, history]
    simpa [reservedSame, retiredSame] using accounted.reserved
  · intro entry membership ready
    rcases faithful entry membership ready with known | faithful
    · have := accounted.faithful entry known ready
      exact { this with status := kept this.status }
    · exact faithful
  · intro request membership
    rw [history] at membership
    simp only [retiredIn_append, retiredSame, List.append_nil] at membership
    exact (accounted.retired request membership).mono kept
  · intro busy serial empty
    rw [empty, List.map_nil, eq_comm, List.map_eq_nil_iff] at requests
    exact accounted.busy (publishing ▸ busy) serial requests
  · rw [begun]
    have calls := accounted.calls.imp fun _ _ reports => CqeCall.For.mono reports kept
    rw [history] at calls ⊢
    simpa [retiredSame, submittedSame] using calls
  · rw [history]
    refine accounted.turns.append ?_
    intro item membership before position call same
    have := aside item membership
    simp [same, Observation.aside] at this

/-! ## Entries under publication -/

theorem map_takeWhile_eq {first second : List SqCompletion}
    (same : first.map (fun entry => (entry.request, entry.publicationStarted)) =
      second.map fun entry => (entry.request, entry.publicationStarted)) :
    (first.takeWhile (·.publicationStarted)).map SqCompletion.request =
      (second.takeWhile (·.publicationStarted)).map SqCompletion.request := by
  induction first generalizing second with
  | nil =>
      obtain rfl : second = [] := by simpa using same.symm
      rfl
  | cons front rest inductionHypothesis =>
      cases second with
      | nil => simp at same
      | cons other remaining =>
          simp only [List.map_cons, List.cons.injEq, Prod.mk.injEq] at same
          obtain ⟨⟨request, started⟩, tail⟩ := same
          simp only [List.takeWhile_cons, started]
          split
          · simp [request, inductionHypothesis tail]
          · rfl

/-- Entries change, but neither their descriptors nor what is published. -/
theorem begun_map_eq (publishing : next.publishing = ledger.publishing)
    (requests : next.entries.map SqCompletion.request = ledger.entries.map SqCompletion.request)
    (same : pipelined = true →
      next.entries.map (fun entry => (entry.request, entry.publicationStarted)) =
        ledger.entries.map fun entry => (entry.request, entry.publicationStarted)) :
    (next.begun pipelined).map SqCompletion.request =
      (ledger.begun pipelined).map SqCompletion.request := by
  unfold begun
  split
  next mode => exact map_takeWhile_eq (same mode)
  next => rw [publishing, List.map_take, List.map_take, requests]

/-- An entry that is behind the others is not under publication yet. -/
theorem begun_append (busy : ledger.publishing = true → pipelined = false → ledger.entries ≠ [])
    (publishing : next.publishing = ledger.publishing) {entry : SqCompletion}
    (entries : next.entries = ledger.entries ++ [entry])
    (unstarted : entry.publicationStarted = false) :
    next.begun pipelined = ledger.begun pipelined := by
  unfold begun
  rw [entries, publishing]
  split
  · rw [List.takeWhile_append]
    split
    next whole =>
      have all := (List.takeWhile_prefix _).eq_of_length whole
      simp [unstarted, all]
    next => rfl
  next serial =>
    cases publication : ledger.publishing with
    | false => rfl
    | true =>
        have some := busy publication (by simpa using serial)
        obtain ⟨front, rest, shape⟩ := List.exists_cons_of_ne_nil some
        simp [shape]

/-- The front of the queue is under publication, or nothing is. -/
theorem takeWhile_started {entries : List SqCompletion}
    (flags : ∀ entry ∈ entries, entry.publicationDone = true → entry.publicationStarted = true) :
    entries.takeWhile (·.publicationStarted) =
      entries.takeWhile (·.publicationDone) ++
        (entries.dropWhile (·.publicationDone)).takeWhile (·.publicationStarted) := by
  induction entries with
  | nil => rfl
  | cons front rest inductionHypothesis =>
      have tail := inductionHypothesis fun entry membership =>
        flags entry (List.mem_cons_of_mem _ membership)
      cases done : front.publicationDone with
      | true =>
          have started := flags front List.mem_cons_self done
          simp [started, done, tail]
      | false => simp [done]

/-! ## Steps -/

/-- A descriptor is reserved. -/
theorem Accounted.reserve (accounted : ledger.Accounted pipelined id) {request : SqRequest}
    (history : next.history = ledger.history ++ [.reserved id request])
    (entries : next.entries = ledger.entries ++ [request.entry])
    (publishing : next.publishing = ledger.publishing) : next.Accounted pipelined id := by
  have kept : ledger.history ⊆ next.history := by simp [history]
  refine ⟨?_, ?_, ?_, ?_, ?_, ?_⟩
  · rw [history, entries]
    simp [accounted.reserved, SqRequest.entry]
  · intro entry membership ready
    rw [entries, List.mem_append] at membership
    rcases membership with old | new
    · have := accounted.faithful entry old ready
      exact { this with status := kept this.status }
    · obtain rfl : entry = request.entry := by simpa using new
      simp [SqRequest.entry] at ready
  · intro other membership
    rw [history] at membership
    simp only [retiredIn_append, retiredIn_reserved, retiredIn_nil, List.append_nil] at membership
    exact (accounted.retired other membership).mono kept
  · intro _ _
    simp [entries]
  · rw [begun_append accounted.busy publishing entries rfl]
    have calls := accounted.calls.imp fun _ _ reports => CqeCall.For.mono reports kept
    have nothing : submittedIn [.reserved id request] = [] := rfl
    rw [history] at calls ⊢
    simpa [nothing] using calls
  · rw [history]
    refine accounted.turns.append_single ?_
    intro position call same
    simp at same

/-- The publication of an entry begins. -/
theorem Accounted.submit (accounted : ledger.Accounted pipelined id) (ring : ledger.Ring)
    (earlier later : List SqCompletion) {entry : SqCompletion} {call : CqeCall}
    (shape : ledger.entries = earlier ++ entry :: later)
    (ready : ∀ other ∈ earlier ++ [entry], other.ready = true) (reports : call.Reports entry)
    (history : next.history = ledger.history ++ entry.submission id call)
    (requests : next.entries.map SqCompletion.request =
      ledger.entries.map SqCompletion.request)
    (before : (ledger.begun pipelined).map SqCompletion.request =
      earlier.map SqCompletion.request)
    (after : (next.begun pipelined).map SqCompletion.request =
      (earlier ++ [entry]).map SqCompletion.request)
    (faithful : ∀ other ∈ next.entries, other.ready = true →
      other.Faithful id ledger.history) : next.Accounted pipelined id := by
  have kept : ledger.history ⊆ next.history := by simp [history]
  have known : entry ∈ ledger.entries := by simp [shape]
  have own := accounted.faithful entry known (ready entry (by simp))
  have named := ring.named entry known
  have addedReserved : reservedIn (entry.submission id call) = [] := by
    unfold SqCompletion.submission
    split <;> rfl
  have addedRetired : retiredIn (entry.submission id call) = [] := by
    unfold SqCompletion.submission
    split <;> rfl
  refine ⟨?_, ?_, ?_, ?_, ?_, ?_⟩
  · rw [requests, history]
    simpa [addedReserved, addedRetired] using accounted.reserved
  · intro other membership readiness
    have := faithful other membership readiness
    exact { this with status := kept this.status }
  · intro request membership
    rw [history] at membership
    simp only [retiredIn_append, addedRetired, List.append_nil] at membership
    exact (accounted.retired request membership).mono kept
  · intro _ _ empty
    rw [empty, shape] at requests
    simp at requests
  · have calls := accounted.calls.imp fun _ _ reports => CqeCall.For.mono reports kept
    rw [before] at calls
    rw [after]
    have retired : retiredIn next.history = retiredIn ledger.history := by
      simp [history, addedRetired]
    rw [retired, List.map_append, ← List.append_assoc, List.filter_append]
    have submitted : submittedIn next.history =
        submittedIn ledger.history ++ submittedIn (entry.submission id call) := by
      rw [history, submittedIn_append]
    rw [submitted]
    refine List.rel_append calls ?_
    unfold SqCompletion.submission
    cases enabled : entry.enabled with
    | false =>
        have unwanted : entry.request.completion = false := by rw [← own.enabled, enabled]
        simp [unwanted, submittedIn]
    | true =>
        have wanted : entry.request.completion = true := by rw [← own.enabled, enabled]
        have true_call : CqeCall.For id next.history (entry.request.position, call)
            entry.request :=
          { position := rfl
            opcode := reports.opcode.trans own.opcode
            entryIndex := reports.entryIndex.trans named.completedIndex.symm
            byteCount := reports.byteCount.trans own.bytes
            immediate := reports.immediate.trans own.immediate
            status := by
              dsimp only
              rw [reports.status, reports.substatus]
              exact kept own.status }
        simpa [wanted, submittedIn, Observation.submittedCall] using true_call
  · rw [history]
    unfold SqCompletion.submission
    split
    · refine accounted.turns.append_single ?_
      intro position call' same
      simp only [Observation.submitted.injEq, true_and] at same
      refine ⟨retiredIn ledger.history ++ earlier.map SqCompletion.request, entry.request,
        later.map SqCompletion.request, ?_, same.1, ?_⟩
      · rw [accounted.reserved, shape]
        simp
      · intro other membership
        rw [List.append_assoc, List.mem_append] at membership
        rcases membership with old | current
        · exact accounted.retired other old
        · obtain ⟨source, inside, rfl⟩ : ∃ source ∈ earlier ++ [entry],
              source.request = other := by
            simpa [or_and_right, exists_or, eq_comm] using current
          have held : source ∈ ledger.entries := by
            rw [shape]
            simp only [List.mem_append, List.mem_cons, List.not_mem_nil, or_false] at inside ⊢
            tauto
          exact ⟨_, _, (accounted.faithful source held (ready source inside)).status⟩
    · simpa using accounted.turns

/-- Published entries leave from the front. -/
theorem Accounted.release (accounted : ledger.Accounted pipelined id)
    (popped : List SqCompletion)
    (requests : ledger.entries.map SqCompletion.request =
      (popped ++ next.entries).map SqCompletion.request)
    (history : next.history = ledger.history ++
      popped.map fun front => .retired id front.request)
    (begun : (ledger.begun pipelined).map SqCompletion.request =
      (popped ++ next.begun pipelined).map SqCompletion.request)
    (busy : next.publishing = true → pipelined = false → next.entries ≠ [])
    (faithful : ∀ entry ∈ popped ++ next.entries, entry.ready = true →
      entry.Faithful id ledger.history)
    (ready : ∀ entry ∈ popped, entry.ready = true) : next.Accounted pipelined id := by
  have kept : ledger.history ⊆ next.history := by simp [history]
  have retired : retiredIn next.history =
      retiredIn ledger.history ++ popped.map SqCompletion.request := by
    rw [history, retiredIn_append, retiredIn_retirement]
  refine ⟨?_, ?_, ?_, busy, ?_, ?_⟩
  · rw [retired, history, reservedIn_append, reservedIn_retirement, accounted.reserved, requests]
    simp
  · intro entry membership readiness
    have := faithful entry (List.mem_append_right _ membership) readiness
    exact { this with status := kept this.status }
  · intro request membership
    rw [retired] at membership
    rcases List.mem_append.mp membership with old | new
    · exact (accounted.retired request old).mono kept
    · obtain ⟨entry, inside, rfl⟩ := List.mem_map.mp new
      have := faithful entry (List.mem_append_left _ inside) (ready entry inside)
      exact ⟨_, _, kept this.status⟩
  · have calls := accounted.calls.imp fun _ _ reports => CqeCall.For.mono reports kept
    rw [begun, List.map_append, ← List.append_assoc, ← retired] at calls
    have submitted : submittedIn next.history = submittedIn ledger.history := by
      rw [history, submittedIn_append, submittedIn_retired, List.append_nil]
    rw [submitted]
    exact calls
  · rw [history]
    refine accounted.turns.append ?_
    intro item membership before position call same
    obtain ⟨entry, _, rfl⟩ := List.mem_map.mp membership
    simp at same

theorem map_request_of_places {first second : List SqCompletion}
    (places : first.map SqCompletion.place = second.map SqCompletion.place) :
    first.map SqCompletion.request = second.map SqCompletion.request := by
  have := congrArg (List.map Prod.fst) places
  rwa [List.map_map, List.map_map] at this

/-- `CompleteSq` completes the entry of its own descriptor. -/
theorem Accounted.complete (accounted : ledger.Accounted pipelined id) (ring : ledger.Ring)
    (published : ledger.Published pipelined id) (owned : ledger.Owned)
    {request : SqRequest} {status substatus : Nat} {owners : Multiset SqRequest}
    {entry : SqCompletion} (held : ledger.owners = request ::ₘ owners)
    (found : ledger.entries.find? request.names = some entry) (waiting : entry.ready = false)
    (size : entry.wqebbs = request.wqebbs) :
    Accounted pipelined id { ledger with
      entries := markFirst request.names
        (fun found => found.complete request status substatus) ledger.entries
      owners := owners
      history := ledger.history ++ [.completed id request status substatus] } := by
  have own : entry.request = request := by
    obtain ⟨opened, known, rfl, _⟩ := owned.opened request (by simp [held])
    rw [ring.find_names known, Option.some.injEq] at found
    rw [found]
  subst own
  obtain ⟨earlier, later, shape, skipped, hit⟩ := split_of_find found
  have requests := map_request_of_places (complete_places found size status substatus)
  refine accounted.keep rfl (by simp [Observation.aside]) requests
    (begun_map_eq rfl requests ?_) rfl ?_
  · intro mode
    have flags := (published.pipelined mode).flags entry (by simp [shape])
    have unstarted : entry.publicationStarted = false := by
      cases started : entry.publicationStarted with
      | false => rfl
      | true => simp [flags.1 started] at waiting
    dsimp only
    rw [shape, markFirst_append skipped hit]
    simp [SqCompletion.complete, unstarted]
  · intro other membership ready
    dsimp only at membership
    rw [shape, markFirst_append skipped hit] at membership
    by_cases same : other = entry.complete entry.request status substatus
    · subst same
      exact .inr ⟨rfl, rfl, rfl, rfl, by simp [SqCompletion.complete]⟩
    · exact .inl (shape ▸ mem_of_changed membership same)

theorem Accounted.publishNext (accounted : ledger.Accounted pipelined id) (ring : ledger.Ring)
    (publication : ledger.Pipelined id) (mode : pipelined = true) {entry : SqCompletion}
    {call : CqeCall} (found : ledger.entries.find? SqCompletion.unstarted = some entry)
    (ready : entry.ready = true) (reports : call.Reports entry) :
    Accounted pipelined id { ledger with
      entries := markFirst SqCompletion.unstarted SqCompletion.start ledger.entries
      publishing := true
      inflight := ledger.inflight + 1
      finishers := (entry.start, entry.verdict) ::ₘ ledger.finishers
      history := ledger.history ++ entry.submission id call } := by
  obtain ⟨earlier, later, shape, skipped, hit⟩ := split_of_find found
  have unstarted : entry.publicationStarted = false := by
    simpa [SqCompletion.unstarted, ready] using hit
  have passed : ∀ other ∈ earlier, other.ready = true ∧ other.publicationStarted = true := by
    intro other inside
    simpa [SqCompletion.unstarted] using skipped other inside
  -- nothing behind the entry has been started before it
  have behind : later.takeWhile (·.publicationStarted) = [] := by
    have order := publication.order
    rw [shape] at order
    simp only [List.map_append, List.map_cons, List.pairwise_append, List.pairwise_cons] at order
    rw [List.takeWhile_eq_nil_iff]
    intro some started
    have := order.2.1.1 _ (List.mem_map_of_mem (List.getElem_mem some)) started
    simp [unstarted] at this
  refine accounted.submit ring earlier later shape ?_ reports rfl
    (map_request_of_places (start_places _)) ?_ ?_ ?_
  · intro other membership
    rcases List.mem_append.mp membership with inside | last
    · exact (passed other inside).1
    · obtain rfl : other = entry := by simpa using last
      exact ready
  · simp only [begun, mode, if_true]
    rw [shape, List.takeWhile_append_of_pos fun other inside => (passed other inside).2]
    simp [unstarted]
  · simp only [begun, mode, if_true]
    rw [shape, markFirst_append skipped hit,
      List.takeWhile_append_of_pos fun other inside => (passed other inside).2]
    simp [SqCompletion.start, behind]
  · intro other membership readiness
    dsimp only at membership
    rw [shape, markFirst_append skipped hit] at membership
    by_cases same : other = entry.start
    · subst same
      have := accounted.faithful entry (by simp [shape]) ready
      exact ⟨this.opcode, this.bytes, this.immediate, this.enabled, this.status⟩
    · exact accounted.faithful other (shape ▸ mem_of_changed membership same) readiness

theorem Accounted.retire (accounted : ledger.Accounted pipelined id) (ring : ledger.Ring)
    (publication : ledger.Pipelined id) (mode : pipelined = true)
    {entry current : SqCompletion} {finishers : Multiset (SqCompletion × Option Bool)}
    (held : ledger.finishers = (entry, some true) ::ₘ finishers)
    (found : ledger.entries.find? entry.sameIndex = some current) {marked : List SqCompletion}
    (marking : marked = markFirst entry.sameIndex SqCompletion.finish ledger.entries)
    (entries : next.entries = marked.dropWhile (·.publicationDone))
    (history : next.history = ledger.history ++
      (marked.takeWhile (·.publicationDone)).map fun front => .retired id front.request) :
    next.Accounted pipelined id := by
  have flags := publication.marked_flags ring held found
  rw [← marking] at flags
  have places := finish_places entry ledger.entries
  rw [← marking] at places
  have same : marked.map (fun entry => (entry.request, entry.publicationStarted)) =
      ledger.entries.map fun entry => (entry.request, entry.publicationStarted) := by
    rw [marking]
    apply map_markFirst
    intro found
    rfl
  have parts : marked.takeWhile (·.publicationDone) ++ next.entries = marked := by
    rw [entries]
    exact List.takeWhile_append_dropWhile
  refine accounted.release (marked.takeWhile (·.publicationDone)) ?_ history ?_ ?_ ?_ ?_
  · rw [parts]
    exact (map_request_of_places places).symm
  · have started := takeWhile_started fun other inside => (flags other inside).2.1
    simp only [begun, mode, if_true]
    rw [entries, ← started]
    exact (map_takeWhile_eq same).symm
  · intro _ serial
    simp [mode] at serial
  · rw [parts]
    intro other membership ready
    obtain ⟨earlier, later, shape, skipped, hit⟩ := split_of_find found
    rw [marking, shape, markFirst_append skipped hit] at membership
    by_cases changed : other = current.finish
    · subst changed
      have := accounted.faithful current (by simp [shape]) ready
      exact ⟨this.opcode, this.bytes, this.immediate, this.enabled, this.status⟩
    · exact accounted.faithful other (shape ▸ mem_of_changed membership changed) ready
  · intro other membership
    have inside := (List.takeWhile_prefix _).subset membership
    obtain ⟨ready, started, _⟩ := flags other inside
    exact ready (started (List.mem_takeWhile_imp membership))

theorem Step.accounted (step : Step pipelined id tardy lossy ledger next) (ring : ledger.Ring)
    (published : ledger.Published pipelined id) (owned : ledger.Owned)
    (accounted : ledger.Accounted pipelined id) : next.Accounted pipelined id := by
  cases step with
  | same => exact accounted
  | vanish | create | merge | capture | direct | forget | take | release | late | lose | keep
  | abort =>
      exact accounted.keep (List.append_nil _).symm (by simp) rfl rfl rfl fun _ known _ => .inl known
  | ignore | report =>
      exact accounted.keep rfl (by simp [Observation.aside]) rfl rfl rfl
        fun _ known _ => .inl known
  | reserve => exact accounted.reserve rfl rfl rfl
  | complete request status substatus owners entry held found waiting size =>
      exact accounted.complete ring published owned held found waiting size
  | publish front rest call serial queue idle ready reports =>
      refine accounted.submit ring [] rest queue (by simpa using ready)
        reports rfl rfl ?_ ?_ ?_
      · simp [begun, serial, idle]
      · simp [begun, serial, queue]
      · exact accounted.faithful
  | publishNext entry call mode found ready reports =>
      exact accounted.publishNext ring (published.pipelined mode) mode found ready reports
  | pop entry finishers serial held =>
      have publication := published.serial serial
      obtain ⟨head, ready⟩ := publication.front (entry, some true) (by simp [held])
      obtain ⟨rest, queue⟩ := List.head?_eq_some_iff.mp head
      have single := publication.single
      have busy : ledger.publishing = true := by
        cases publishing : ledger.publishing with
        | true => rfl
        | false => simp [held, publishing] at single
      refine accounted.release [entry] (by simp [queue]) (by simp [queue]) ?_
        (by simp) ?_ (by simpa using ready)
      · simp [begun, serial, busy, queue]
      · simp only [queue, List.tail_cons, List.singleton_append]
        rw [← queue]
        exact accounted.faithful
  | retire entry current marked finishers mode held found started waiting marking =>
      exact accounted.retire ring (published.pipelined mode) mode held found marking rfl rfl

/-- Each descriptor is completed once. -/
structure Answered (id : Nat) (ledger : Ledger) : Prop where
  waiting : ∀ request ∈ ledger.owners, ¬ CompletedIn id ledger.history request
  below : ∀ request, CompletedIn id ledger.history request → request.position < ledger.issue
  once : ∀ request status substatus other another,
    .completed id request status substatus ∈ ledger.history →
    .completed id request other another ∈ ledger.history → status = other ∧ substatus = another

theorem Answered.keep (answered : ledger.Answered id) (owners : next.owners ⊆ ledger.owners)
    (issue : ledger.issue ≤ next.issue)
    (history : ∀ request status substatus,
      .completed id request status substatus ∈ next.history →
        .completed id request status substatus ∈ ledger.history) : next.Answered id where
  waiting request owner := by
    rintro ⟨status, substatus, membership⟩
    exact answered.waiting request (owners owner)
      ⟨status, substatus, history request status substatus membership⟩
  below request := by
    rintro ⟨status, substatus, membership⟩
    have := answered.below request ⟨status, substatus, history request status substatus membership⟩
    omega
  once request status substatus other another one two :=
    answered.once request status substatus other another
      (history request status substatus one) (history request other another two)

/-- An owner completes its descriptor and is gone. -/
theorem Answered.complete (answered : ledger.Answered id) (ring : ledger.Ring)
    (owned : ledger.Owned) {request : SqRequest} {status substatus : Nat}
    {owners : Multiset SqRequest} (held : ledger.owners = request ::ₘ owners)
    (remaining : next.owners = owners) (issue : next.issue = ledger.issue)
    (history : next.history = ledger.history ++ [.completed id request status substatus]) :
    next.Answered id := by
  have fresh : ¬ CompletedIn id ledger.history request :=
    answered.waiting request (by simp [held])
  have distinct := owned.distinct
  rw [held, Multiset.nodup_cons] at distinct
  have cases : ∀ {other first second}, .completed id other first second ∈ next.history →
      .completed id other first second ∈ ledger.history ∨
        other = request ∧ first = status ∧ second = substatus := by
    intro other first second membership
    rw [history] at membership
    simpa using membership
  refine ⟨?_, ?_, ?_⟩
  · rintro other owner ⟨first, second, membership⟩
    rw [remaining] at owner
    rcases cases membership with old | ⟨rfl, _, _⟩
    · exact answered.waiting other (by simp [held, owner]) ⟨first, second, old⟩
    · exact distinct.1 owner
  · rintro other ⟨first, second, membership⟩
    rw [issue]
    rcases cases membership with old | ⟨rfl, _, _⟩
    · exact answered.below other ⟨first, second, old⟩
    · obtain ⟨entry, known, rfl, _⟩ := owned.opened other (by simp [held])
      have bounds := ring.consecutive.mem_bounds known
      simp only [SqCompletion.position] at bounds
      omega
  · intro other first second third fourth one two
    rcases cases one with old | ⟨rfl, rfl, rfl⟩
    · rcases cases two with older | ⟨rfl, _, _⟩
      · exact answered.once other first second third fourth old older
      · exact absurd ⟨first, second, old⟩ fresh
    · rcases cases two with older | ⟨_, rfl, rfl⟩
      · exact absurd ⟨third, fourth, older⟩ fresh
      · exact ⟨rfl, rfl⟩

theorem Step.answered (step : Step pipelined id tardy lossy ledger next) (ring : ledger.Ring)
    (owned : ledger.Owned) (punctual : ¬ tardy) (answered : ledger.Answered id) :
    next.Answered id := by
  cases step with
  | same => exact answered
  | vanish targets demands finishers owners empty idle fewerTargets fewerDemands
      fewerFinishers fewer =>
      exact answered.keep (Multiset.subset_of_le fewer) (le_refl _) fun _ _ _ known => known
  | create | merge | capture | direct | forget | take | release | keep | abort =>
      exact answered.keep (Multiset.Subset.refl _) (le_refl _) fun _ _ _ known => known
  | reserve request alone clear wide placed =>
      refine ⟨?_, ?_, ?_⟩
      · rintro other owner ⟨status, substatus, membership⟩
        have old : .completed id other status substatus ∈ ledger.history := by
          simpa using membership
        rcases Multiset.mem_cons.mp owner with rfl | elsewhere
        · have := answered.below other ⟨status, substatus, old⟩
          omega
        · exact answered.waiting other elsewhere ⟨status, substatus, old⟩
      · rintro other ⟨status, substatus, membership⟩
        have := answered.below other ⟨status, substatus, by simpa using membership⟩
        dsimp only
        omega
      · intro other status substatus third fourth one two
        exact answered.once other status substatus third fourth (by simpa using one)
          (by simpa using two)
  | late request allowed => exact absurd allowed punctual
  | lose request owners held allowed =>
      refine answered.keep ?_ (le_refl _) fun _ _ _ known => known
      rw [held]
      exact Multiset.subset_cons _ _
  | ignore request status substatus owners held =>
      exact answered.complete ring owned held rfl rfl rfl
  | complete request status substatus owners entry held =>
      exact answered.complete ring owned held rfl rfl rfl
  | publish front | publishNext front =>
      refine answered.keep (Multiset.Subset.refl _) (le_refl _) ?_
      intro other status substatus membership
      unfold SqCompletion.submission at membership
      split at membership <;> simpa using membership
  | report | pop | retire =>
      refine answered.keep (Multiset.Subset.refl _) (le_refl _) ?_
      intro other status substatus membership
      simpa [-List.map_take] using membership

end Ledger

/-! ## Runs -/

section Runs

variable {config : Config} {id : Nat} {state : State}

theorem accounted_of_reaches
    (reached : Reaches (step config) (Punctual id) (State.initial config) state) :
    (state.lane id).ledger.Accounted config.pipelinedCompletionDma id := by
  refine ledger_of_reaches id (Ledger.Accounted config.pipelinedCompletionDma id) reached ?_ ?_
  · refine ⟨rfl, ?_, ?_, ?_, ?_, Throughout.nil⟩
    · simp [Lane.ledger]
    · simp [Lane.ledger]
    · simp [Lane.ledger]
    · simp [Lane.ledger, Ledger.begun, submittedIn]
  · intro before event after earlier allowed accounted step
    obtain ⟨ring, published, _⟩ := ring_of_reaches id (fun _ _ _ allowed => allowed.1) earlier
    have owned := owned_of_reaches id (fun _ _ _ allowed => allowed.1)
      (fun _ _ _ allowed => allowed.2) earlier
    exact step.accounted ring published owned accounted

theorem answered_of_reaches
    (reached : Reaches (step config) (Punctual id) (State.initial config) state) :
    (state.lane id).ledger.Answered id := by
  refine ledger_of_reaches id (Ledger.Answered id) reached ?_ ?_
  · refine ⟨?_, ?_, ?_⟩ <;> simp [Lane.ledger, CompletedIn]
  · intro before event after earlier allowed answered step
    obtain ⟨ring, published, _⟩ := ring_of_reaches id (fun _ _ _ allowed => allowed.1) earlier
    have owned := owned_of_reaches id (fun _ _ _ allowed => allowed.1)
      (fun _ _ _ allowed => allowed.2) earlier
    exact step.answered ring owned (by simp [allowed.2]) answered

end Runs

section History

variable (trace : List Observation)

theorem reservedIn_history : reservedIn (gather Observation.entered trace) = reservedIn trace := by
  unfold reservedIn gather
  rw [List.filterMap_filterMap]
  congr 1
  funext observation
  cases observation <;> rfl

theorem submittedIn_history :
    submittedIn (gather Observation.entered trace) = submittedIn trace := by
  unfold submittedIn gather
  rw [List.filterMap_filterMap]
  congr 1
  funext observation
  cases observation <;> rfl

variable {trace}

theorem completedIn_history {id : Nat} {request : SqRequest} :
    CompletedIn id (gather Observation.entered trace) request ↔ CompletedIn id trace request := by
  simp [CompletedIn, mem_history]

end History

/-- The `WriteCqe` calls in the trace of a Jetty report its descriptors in order. -/
structure SubmittedInOrder (id : Nat) (trace : List Observation) : Prop where
  /-- Those that ask for a completion, in the order of reservation, without a gap. -/
  calls : ∃ reported, reported <+: (reservedIn trace).filter (·.completion) ∧
    List.Forall₂ (CqeCall.For id trace) (submittedIn trace) reported
  turns : Throughout (Observation.inTurn id) trace
  /-- The status of a descriptor is not ambiguous. -/
  once : ∀ request status substatus other another,
    .completed id request status substatus ∈ trace →
    .completed id request other another ∈ trace → status = other ∧ substatus = another

theorem submitted_in_order {config : Config} {id : Nat} {state : State}
    (reached : Reaches (step config) (Punctual id) (State.initial config) state) :
    SubmittedInOrder id (state.trace.filter (Observation.on id)) := by
  have accounted := accounted_of_reaches reached
  have answered := answered_of_reaches reached
  have history : (state.lane id).ledger.history =
      gather Observation.entered (state.trace.filter (Observation.on id)) := rfl
  refine ⟨⟨((retiredIn (state.lane id).ledger.history ++
    ((state.lane id).ledger.begun config.pipelinedCompletionDma).map
      SqCompletion.request).filter (·.completion)), ?_, ?_⟩, ?_, ?_⟩
  · rw [← reservedIn_history, ← history, accounted.reserved]
    refine List.IsPrefix.filter _ ((List.prefix_append_right_inj _).mpr ?_)
    refine List.IsPrefix.map _ ?_
    unfold Ledger.begun
    split
    · exact List.takeWhile_prefix _
    · exact List.take_prefix _ _
  · have calls := accounted.calls
    rw [show submittedIn (state.lane id).ledger.history = _ from submittedIn_history _] at calls
    refine calls.imp fun _ _ reports => ?_
    have status := reports.status
    rw [history, mem_history] at status
    exact { reports with status := status.1 }
  · intro before item after shape position call same
    subst same
    have split := congrArg (gather Observation.entered) shape
    rw [← history, gather_append, gather_cons] at split
    obtain ⟨older, request, younger, reserved, place, completed⟩ :=
      accounted.turns _ _ _ split position call rfl
    rw [reservedIn_history] at reserved
    exact ⟨older, request, younger, reserved, place, fun other inside =>
      completedIn_history.mp (completed other inside)⟩
  · intro request status substatus other another one two
    exact answered.once request status substatus other another
      (mem_history.mpr ⟨one, rfl⟩) (mem_history.mpr ⟨two, rfl⟩)

/-- Two WRITEs are answered in the opposite order. -/
theorem writes_submitted_in_order :
    ∃ state, Reaches (step (.small true)) (Punctual 9) (State.initial (.small true)) state ∧
      (submittedIn state.trace).map Prod.fst = [0, 1] ∧
      SubmittedInOrder 9 (state.trace.filter (Observation.on 9)) := by
  let write := SqWqe.image true 0 0x20 3 1 0x8000 ⟨4, 0, 0x8000⟩
  let events : List Event := opening 9 3 ++ [.doorbell 9 2] ++ runs 7 ++
    [.fire 0 true (write ++ write)] ++ runs 17 ++ [.fire 0 true [1, 2, 3, 4]] ++ runs 7 ++
    [.fire 0 true [1, 2, 3, 4]] ++ runs 7 ++
    [.receive { operation := .writeAck, requestId := 2, transferLength := 4 }] ++ runs 3 ++
    [.receive { operation := .writeAck, requestId := 1, transferLength := 4 }] ++ runs 7
  obtain ⟨state, reached, seen⟩ := exists_of_execute
    (show (execute (step (.small true)) (Punctual 9) events (State.initial (.small true))).map
      (fun state => (submittedIn state.trace).map Prod.fst) = some [0, 1] by decide +kernel)
  exact ⟨state, reached, seen, submitted_in_order reached⟩

/-- A send failure that is reported after the reply completes the READ that took the block
of the WRITE: the call for the READ carries the opcode of the WRITE. -/
theorem late_failure_misreports_entry :
    ¬ ∀ state : State,
      Reaches (step (.small false)) (InWindow 9) (State.initial (.small false)) state →
      SubmittedInOrder 9 (state.trace.filter (Observation.on 9)) := by
  intro ordered
  let write := SqWqe.image true 0 0x20 3 1 0x8000 ⟨4, 0, 0x8000⟩
  let read := SqWqe.image false 0 0x20 6 1 0x8000 ⟨4, 0, 0x8000⟩
  let events : List Event := opening 9 0 ++ [.doorbell 9 1] ++ runs 7 ++
    [.fire 0 true write] ++ runs 10 ++ [.fire 0 true [1, 2, 3, 4]] ++ runs 7 ++
    [.receive { operation := .writeAck, requestId := 1, transferLength := 4 }] ++ runs 5 ++
    [.fire 1 true []] ++ runs 6 ++ [.doorbell 9 2] ++ runs 7 ++ [.fire 1 true read] ++ runs 10 ++
    [.fire 0 false []] ++ runs 5
  obtain ⟨state, reached, seen⟩ := exists_of_execute
    (show (execute (step (.small false)) (InWindow 9) events (State.initial (.small false))).map
      (fun state =>
        ((submittedIn (state.trace.filter (Observation.on 9))).map (·.2.opcode),
          ((reservedIn (state.trace.filter (Observation.on 9))).filter (·.completion)).map
            (·.opcode))) = some ([3, 3], [3, 6]) by decide +kernel)
  obtain ⟨called, wanted⟩ := Prod.mk.injEq .. |>.mp seen
  obtain ⟨reported, initial, reports⟩ := (ordered state reached).calls
  have opcodes : (submittedIn (state.trace.filter (Observation.on 9))).map (·.2.opcode) =
      reported.map (·.opcode) := by
    rw [← List.forall₂_eq_eq_eq, List.forall₂_map_left_iff, List.forall₂_map_right_iff]
    exact reports.imp fun _ _ report => report.opcode
  have start := initial.map (·.opcode)
  rw [← opcodes, called, wanted] at start
  exact absurd start (by decide)

end Udma.Sq
