import Udma.Transition.Trace
import Udma.Sq.Lock

/-!
# Order of the emitted frames

READs, SENDs and inline WRITEs are handed to the network when they are reserved;
other WRITEs wait in `prepared_writes` for their payload and leave in order.  A
`Flow` is what this protocol depends on for one lane: the unretired entries, the
queue of prepared WRITEs, and the descriptors whose payload is in hand but which
are not reserved yet.  Every function of the engine is one of its moves.
-/

namespace Udma.Sq

open Udma.Abi Udma.Arithmetic Udma.Collections Udma.Transition

/-! ## What a trace says -/

def Observation.reservedRequest : Observation → Option SqRequest
  | .reserved _ request => some request
  | _ => none

def Observation.retiredRequest : Observation → Option SqRequest
  | .retired _ request => some request
  | _ => none

def Observation.sentPosition : Observation → Option Nat
  | .sent _ position _ => some position
  | _ => none

def reservedIn (trace : List Observation) : List SqRequest :=
  trace.filterMap Observation.reservedRequest

def retiredIn (trace : List Observation) : List SqRequest :=
  trace.filterMap Observation.retiredRequest

def sentIn (trace : List Observation) : List Nat :=
  trace.filterMap Observation.sentPosition

section Trace

variable (first second : List Observation)

@[simp] theorem reservedIn_append :
    reservedIn (first ++ second) = reservedIn first ++ reservedIn second :=
  List.filterMap_append

@[simp] theorem retiredIn_append :
    retiredIn (first ++ second) = retiredIn first ++ retiredIn second :=
  List.filterMap_append

@[simp] theorem sentIn_append :
    sentIn (first ++ second) = sentIn first ++ sentIn second :=
  List.filterMap_append

/-- An observation that reserves, retires or sends nothing. -/
def Observation.silent : Observation → Bool
  | .reserved _ _ => false
  | .retired _ _ => false
  | .sent _ _ _ => false
  | _ => true

variable {first second}

theorem reservedIn_silent (silent : ∀ item ∈ first, item.silent = true) :
    reservedIn first = [] := by
  refine List.filterMap_eq_nil_iff.mpr fun item membership => ?_
  have := silent item membership
  cases item <;> simp_all [Observation.silent, Observation.reservedRequest]

theorem retiredIn_silent (silent : ∀ item ∈ first, item.silent = true) :
    retiredIn first = [] := by
  refine List.filterMap_eq_nil_iff.mpr fun item membership => ?_
  have := silent item membership
  cases item <;> simp_all [Observation.silent, Observation.retiredRequest]

theorem sentIn_silent (silent : ∀ item ∈ first, item.silent = true) :
    sentIn first = [] := by
  refine List.filterMap_eq_nil_iff.mpr fun item membership => ?_
  have := silent item membership
  cases item <;> simp_all [Observation.silent, Observation.sentPosition]

@[simp] theorem retiredIn_retired (id : Nat) (requests : List SqRequest) :
    retiredIn (requests.map (Observation.retired id)) = requests := by
  simp [retiredIn, List.filterMap_map, Function.comp_def, Observation.retiredRequest]

@[simp] theorem reservedIn_retired (id : Nat) (requests : List SqRequest) :
    reservedIn (requests.map (Observation.retired id)) = [] := by
  simp [reservedIn, List.filterMap_map, Function.comp_def, Observation.reservedRequest]

@[simp] theorem sentIn_retired (id : Nat) (requests : List SqRequest) :
    sentIn (requests.map (Observation.retired id)) = [] := by
  simp [sentIn, List.filterMap_map, Function.comp_def, Observation.sentPosition]

end Trace

section Cons

variable (id position : Nat) (request : SqRequest) (frame : Frame) (rest : List Observation)

@[simp] theorem reservedIn_nil : reservedIn [] = [] := rfl
@[simp] theorem retiredIn_nil : retiredIn [] = [] := rfl
@[simp] theorem sentIn_nil : sentIn [] = [] := rfl

@[simp] theorem reservedIn_reserved :
    reservedIn (.reserved id request :: rest) = request :: reservedIn rest := rfl

@[simp] theorem retiredIn_reserved :
    retiredIn (.reserved id request :: rest) = retiredIn rest := rfl

@[simp] theorem sentIn_reserved :
    sentIn (.reserved id request :: rest) = sentIn rest := rfl

@[simp] theorem reservedIn_sent :
    reservedIn (.sent id position frame :: rest) = reservedIn rest := rfl

@[simp] theorem retiredIn_sent :
    retiredIn (.sent id position frame :: rest) = retiredIn rest := rfl

@[simp] theorem sentIn_sent :
    sentIn (.sent id position frame :: rest) = position :: sentIn rest := rfl

end Cons

/-- A frame leaves in its place: behind every earlier frame of the Jetty, after the
older descriptors if it is fenced, and after every older fenced descriptor.  A
reserved descriptor is one that was executed at its position. -/
def Observation.inPlace (before : List Observation) : Observation → Prop
  | .sent _ position _ =>
      (∀ earlier ∈ sentIn before, earlier < position) ∧
      ∃ request ∈ reservedIn before, request.position = position ∧
        (request.ordered = true → ∀ older ∈ reservedIn before,
          older.position < position → older ∈ retiredIn before) ∧
        ∀ fenced ∈ reservedIn before, fenced.ordered = true →
          fenced.position < position → fenced ∈ retiredIn before
  | .reserved id request =>
      ∃ raw, .executed id request.position raw ∈ before ∧
        request.ordered = SqWqe.ordered raw
  | _ => True

/-! ## The protocol -/

structure Flow where
  id : Nat
  issue : Nat
  /-- Unretired descriptors. -/
  entries : List SqRequest
  /-- Positions of the WRITEs that wait to be sent, oldest first. -/
  queue : List Nat
  /-- Descriptors to be reserved and sent at once. -/
  exclusive : List Bytes
  trace : List Observation

namespace Flow

structure Sound (flow : Flow) : Prop where
  booked : reservedIn flow.trace = retiredIn flow.trace ++ flow.entries
  increasing : (reservedIn flow.trace).Pairwise fun older younger =>
    older.position < younger.position
  reserved_below : ∀ request ∈ reservedIn flow.trace, request.position < flow.issue
  sent_below : ∀ position ∈ sentIn flow.trace, position < flow.issue
  sorted : flow.queue.Pairwise (· < ·)
  waiting : ∀ position ∈ flow.queue,
    (∃ request ∈ reservedIn flow.trace, request.position = position) ∧
      ∀ earlier ∈ sentIn flow.trace, earlier < position
  alone : ∀ raw ∈ flow.exclusive, flow.queue = [] ∧
    (SqWqe.ordered raw = true → flow.entries = []) ∧
      .executed flow.id flow.issue raw ∈ flow.trace
  fence : ∀ fenced ∈ reservedIn flow.trace, fenced.ordered = true →
    ∀ entry ∈ flow.entries, fenced.position ≤ entry.position
  behind : ∀ entry ∈ flow.entries, entry.ordered = true →
    ∀ position ∈ flow.queue, position ≤ entry.position
  emitted : Throughout Observation.inPlace flow.trace

variable {id issue : Nat} {entries : List SqRequest} {queue : List Nat}
  {exclusive : List Bytes} {trace : List Observation}

theorem Sound.unretired (sound : Sound ⟨id, issue, entries, queue, exclusive, trace⟩)
    {request : SqRequest} (reserved : request ∈ reservedIn trace)
    (kept : request ∉ retiredIn trace) : request ∈ entries := by
  have booked : reservedIn trace = retiredIn trace ++ entries := sound.booked
  rw [booked, List.mem_append] at reserved
  exact reserved.resolve_left kept

theorem Sound.queue_below (sound : Sound ⟨id, issue, entries, queue, exclusive, trace⟩) :
    ∀ position ∈ queue, position < issue := by
  intro position membership
  obtain ⟨⟨owner, reserved, same⟩, _⟩ := sound.waiting position membership
  exact same ▸ sound.reserved_below owner reserved

/-- Something happens that reserves, retires and sends nothing. -/
theorem Sound.observe (sound : Sound ⟨id, issue, entries, queue, exclusive, trace⟩)
    (observed : List Observation) (silent : ∀ item ∈ observed, item.silent = true) :
    Sound ⟨id, issue, entries, queue, exclusive, trace ++ observed⟩ := by
  have reserved := reservedIn_silent silent
  have retired := retiredIn_silent silent
  have sent := sentIn_silent silent
  refine ⟨?_, ?_, ?_, ?_, sound.sorted, ?_, ?_, ?_, sound.behind, ?_⟩
  · simpa [reserved, retired] using sound.booked
  · simpa [reserved] using sound.increasing
  · simpa [reserved] using sound.reserved_below
  · simpa [sent] using sound.sent_below
  · simpa [reserved, sent] using sound.waiting
  · intro raw membership
    obtain ⟨empty, unfenced, executed⟩ := sound.alone raw membership
    exact ⟨empty, unfenced, List.mem_append_left _ executed⟩
  · simpa [reserved] using sound.fence
  · refine sound.emitted.append fun item membership before => ?_
    have := silent item membership
    cases item <;> simp_all [Observation.silent, Observation.inPlace]

/-- A descriptor gets its entry. -/
theorem Sound.reserve (sound : Sound ⟨id, issue, entries, queue, exclusive, trace⟩)
    {request : SqRequest} {raw : Bytes} (next : Nat)
    (position : request.position = issue) (advanced : issue < next)
    (executed : .executed id issue raw ∈ trace)
    (faithful : request.ordered = SqWqe.ordered raw)
    (fenced : request.ordered = true → entries = [])
    (unfenced : entries.any SqRequest.ordered = false) (none : exclusive = []) :
    Sound ⟨id, next, entries ++ [request], queue, exclusive,
      trace ++ [.reserved id request]⟩ := by
  have below : ∀ other ∈ reservedIn trace, other.position < issue := sound.reserved_below
  have sentBelow : ∀ other ∈ sentIn trace, other < issue := sound.sent_below
  have plain : ∀ entry ∈ entries, entry.ordered = true → False := by
    simpa using unfenced
  refine ⟨?_, ?_, ?_, ?_, sound.sorted, ?_, ?_, ?_, ?_, ?_⟩
  · have booked : reservedIn trace = retiredIn trace ++ entries := sound.booked
    simp [booked]
  · simp only [reservedIn_append, reservedIn_reserved, reservedIn_nil, List.pairwise_append,
      List.pairwise_singleton, List.mem_singleton, forall_eq, true_and]
    exact ⟨sound.increasing, fun other membership => position ▸ below other membership⟩
  · intro other membership
    simp only [reservedIn_append, reservedIn_reserved, reservedIn_nil, List.mem_append,
      List.mem_singleton] at membership
    rcases membership with old | rfl
    · exact Nat.lt_trans (below other old) advanced
    · exact position ▸ advanced
  · intro other membership
    simp only [sentIn_append, sentIn_reserved, sentIn_nil, List.append_nil] at membership
    exact Nat.lt_trans (sentBelow other membership) advanced
  · intro waiting membership
    obtain ⟨⟨owner, reserved, same⟩, later⟩ := sound.waiting waiting membership
    refine ⟨⟨owner, by simp [show owner ∈ reservedIn trace from reserved], same⟩, ?_⟩
    simpa using later
  · simp [none]
  · intro older membership olderFenced entry kept
    simp only [reservedIn_append, reservedIn_reserved, reservedIn_nil, List.mem_append,
      List.mem_singleton] at membership
    rcases List.mem_append.mp kept with old | new
    · rcases membership with oldFence | rfl
      · exact sound.fence older oldFence olderFenced entry old
      · simp [fenced olderFenced] at old
    · obtain rfl : entry = request := by simpa using new
      rcases membership with oldFence | rfl
      · have := below older oldFence
        omega
      · exact Nat.le_refl _
  · intro entry kept entryFenced waiting membership
    rcases List.mem_append.mp kept with old | new
    · exact (plain entry old entryFenced).elim
    · obtain rfl : entry = request := by simpa using new
      obtain ⟨⟨owner, reserved, same⟩, _⟩ := sound.waiting waiting membership
      have := below owner reserved
      omega
  · exact sound.emitted.append_single ⟨raw, position ▸ executed, faithful⟩

/-- A reserved WRITE joins the queue. -/
theorem Sound.enqueue {request : SqRequest}
    (sound : Sound ⟨id, issue, entries ++ [request], queue, exclusive,
      trace ++ [.reserved id request]⟩)
    (older : ∀ position ∈ queue, position < request.position)
    (sent : ∀ position ∈ sentIn trace, position < request.position)
    (last : ∀ entry ∈ entries, entry.ordered = false)
    (none : exclusive = []) :
    Sound ⟨id, issue, entries ++ [request], queue ++ [request.position], exclusive,
      trace ++ [.reserved id request]⟩ := by
  refine ⟨sound.booked, sound.increasing, sound.reserved_below, sound.sent_below, ?_, ?_, ?_,
    sound.fence, ?_, sound.emitted⟩
  · simp only [List.pairwise_append, List.pairwise_singleton, List.mem_singleton, forall_eq,
      true_and]
    exact ⟨sound.sorted, older⟩
  · intro waiting membership
    rcases List.mem_append.mp membership with old | new
    · exact sound.waiting waiting old
    · obtain rfl : waiting = request.position := by simpa using new
      exact ⟨⟨request, by simp, rfl⟩, by simpa using sent⟩
  · simp [none]
  · intro entry kept entryFenced waiting membership
    rcases List.mem_append.mp membership with old | new
    · exact sound.behind entry kept entryFenced waiting old
    · obtain rfl : waiting = request.position := by simpa using new
      rcases List.mem_append.mp kept with oldEntry | newEntry
      · simp [last entry oldEntry] at entryFenced
      · obtain rfl : entry = request := by simpa using newEntry
        exact Nat.le_refl _

/-- The frame of the descriptor just reserved is sent. -/
theorem Sound.send_reserved {request : SqRequest} (frame : Frame)
    (sound : Sound ⟨id, issue, entries ++ [request], [], exclusive,
      trace ++ [.reserved id request]⟩)
    (sent : ∀ position ∈ sentIn trace, position < request.position)
    (fenced : request.ordered = true → entries = [])
    (unfenced : ∀ entry ∈ entries, entry.ordered = false) :
    Sound ⟨id, issue, entries ++ [request], [], exclusive,
      trace ++ [.reserved id request] ++ [.sent id request.position frame]⟩ := by
  have booked : reservedIn trace ++ [request] = retiredIn trace ++ (entries ++ [request]) := by
    simpa using sound.booked
  refine ⟨?_, ?_, ?_, ?_, by simp, by simp, ?_, ?_, by simp, ?_⟩
  · simpa using booked
  · simpa using sound.increasing
  · simpa using sound.reserved_below
  · intro position membership
    simp only [sentIn_append, sentIn_reserved, sentIn_nil, List.append_nil, sentIn_sent,
      List.mem_append, List.mem_singleton] at membership
    rcases membership with old | rfl
    · exact sound.sent_below position (by simp [old])
    · exact sound.reserved_below request (by simp)
  · intro raw membership
    obtain ⟨empty, entriesEmpty, executed⟩ := sound.alone raw membership
    exact ⟨empty, entriesEmpty, List.mem_append_left _ executed⟩
  · simpa using sound.fence
  · refine sound.emitted.append_single ⟨by simpa using sent, request, by simp, rfl, ?_, ?_⟩
    · intro requestFenced older reserved earlier
      have := fenced requestFenced
      subst this
      simp only [reservedIn_append, reservedIn_reserved, reservedIn_nil] at reserved
      rw [booked] at reserved
      simp only [List.nil_append, List.mem_append, List.mem_singleton] at reserved
      rcases reserved with retired | rfl
      · simpa using retired
      · omega
    · intro other reserved otherFenced earlier
      simp only [reservedIn_append, reservedIn_reserved, reservedIn_nil] at reserved
      rw [booked] at reserved
      simp only [List.mem_append, List.mem_singleton] at reserved
      rcases reserved with retired | kept | rfl
      · simpa using retired
      · simp [unfenced other kept] at otherFenced
      · omega

/-- The frame of the oldest waiting WRITE is sent. -/
theorem Sound.send_waiting {position : Nat} (frame : Frame)
    (sound : Sound ⟨id, issue, entries, position :: queue, exclusive, trace⟩) :
    Sound ⟨id, issue, entries, queue, exclusive, trace ++ [.sent id position frame]⟩ := by
  obtain ⟨⟨owner, reserved, same⟩, later⟩ := sound.waiting position (by simp)
  have younger : ∀ other ∈ queue, position < other := by
    have sorted : (position :: queue).Pairwise (· < ·) := sound.sorted
    exact fun other membership => List.rel_of_pairwise_cons sorted membership
  refine ⟨?_, ?_, ?_, ?_, ?_, ?_, ?_, ?_, ?_, ?_⟩
  · simpa using sound.booked
  · simpa using sound.increasing
  · simpa using sound.reserved_below
  · intro other membership
    simp only [sentIn_append, sentIn_sent, sentIn_nil, List.mem_append, List.mem_singleton] at membership
    rcases membership with old | rfl
    · exact sound.sent_below other old
    · exact same ▸ sound.reserved_below owner reserved
  · exact (List.pairwise_cons.mp sound.sorted).2
  · intro waiting membership
    obtain ⟨owned, after⟩ := sound.waiting waiting (by simp [membership])
    refine ⟨by simpa using owned, ?_⟩
    intro earlier sent
    simp only [sentIn_append, sentIn_sent, sentIn_nil, List.mem_append, List.mem_singleton] at sent
    rcases sent with old | rfl
    · exact after earlier old
    · exact younger waiting membership
  · intro raw membership
    have := (sound.alone raw membership).1
    simp at this
  · simpa using sound.fence
  · intro entry kept fenced waiting membership
    exact sound.behind entry kept fenced waiting (by simp [membership])
  · refine sound.emitted.append_single ⟨later, owner, reserved, same, ?_, ?_⟩
    · intro fenced older olderReserved earlier
      by_contra unretired
      have kept := sound.unretired olderReserved unretired
      have := sound.fence owner reserved fenced older kept
      omega
    · intro other otherReserved fenced earlier
      by_contra unretired
      have kept := sound.unretired otherReserved unretired
      have := sound.behind other kept fenced position (by simp)
      omega

/-- The oldest waiting WRITEs are given up. -/
theorem Sound.drop (dropped : List Nat)
    (sound : Sound ⟨id, issue, entries, dropped ++ queue, exclusive, trace⟩) :
    Sound ⟨id, issue, entries, queue, exclusive, trace⟩ := by
  refine ⟨sound.booked, sound.increasing, sound.reserved_below, sound.sent_below,
    (List.pairwise_append.mp sound.sorted).2.1, ?_, ?_, sound.fence, ?_, sound.emitted⟩
  · intro waiting membership
    exact sound.waiting waiting (by simp [membership])
  · intro raw membership
    obtain ⟨empty, rest⟩ := sound.alone raw membership
    exact ⟨(List.append_eq_nil_iff.mp empty).2, rest⟩
  · intro entry kept fenced waiting membership
    exact sound.behind entry kept fenced waiting (by simp [membership])

/-- The oldest entries retire. -/
theorem Sound.retire {popped rest : List SqRequest}
    (sound : Sound ⟨id, issue, popped ++ rest, queue, exclusive, trace⟩) :
    Sound ⟨id, issue, rest, queue, exclusive, trace ++ popped.map (.retired id)⟩ := by
  refine ⟨?_, ?_, ?_, ?_, sound.sorted, ?_, ?_, ?_, ?_, ?_⟩
  · simpa using sound.booked
  · simpa using sound.increasing
  · simpa using sound.reserved_below
  · simpa using sound.sent_below
  · simpa using sound.waiting
  · intro raw membership
    obtain ⟨empty, unfenced, executed⟩ := sound.alone raw membership
    refine ⟨empty, fun fenced => ?_, List.mem_append_left _ executed⟩
    exact (List.append_eq_nil_iff.mp (unfenced fenced)).2
  · intro fenced membership isFenced entry kept
    simp only [reservedIn_append, reservedIn_retired, List.append_nil] at membership
    exact sound.fence fenced membership isFenced entry (by simp [kept])
  · intro entry kept
    exact sound.behind entry (by simp [kept])
  · refine sound.emitted.append fun item membership before => ?_
    obtain ⟨request, _, rfl⟩ := List.mem_map.mp membership
    trivial

/-- A descriptor to be sent at once has its payload. -/
theorem Sound.take (sound : Sound ⟨id, issue, entries, queue, exclusive, trace⟩)
    (raw : Bytes) (empty : queue = []) (fenced : SqWqe.ordered raw = true → entries = [])
    (executed : .executed id issue raw ∈ trace) :
    Sound ⟨id, issue, entries, queue, raw :: exclusive, trace⟩ := by
  refine ⟨sound.booked, sound.increasing, sound.reserved_below, sound.sent_below,
    sound.sorted, sound.waiting, ?_, sound.fence, sound.behind, sound.emitted⟩
  intro other membership
  rcases List.mem_cons.mp membership with rfl | old
  · exact ⟨empty, fenced, executed⟩
  · exact sound.alone other old

/-- Such a descriptor is given up, or changes hands. -/
theorem Sound.forget {fewer : List Bytes}
    (sound : Sound ⟨id, issue, entries, queue, exclusive, trace⟩)
    (subset : fewer ⊆ exclusive) : Sound ⟨id, issue, entries, queue, fewer, trace⟩ :=
  ⟨sound.booked, sound.increasing, sound.reserved_below, sound.sent_below, sound.sorted,
    sound.waiting, fun raw membership => sound.alone raw (subset membership), sound.fence,
    sound.behind, sound.emitted⟩

end Flow

/-! ## Lanes as flows -/

/-- The WRITE a submission takes from the queue. -/
def Task.draining : Task → Option Nat
  | .submitSqPayload _ _ _ (some request) => some request.position
  | _ => none

def Task.exclusive : Task → Option Bytes
  | .submitSqPayload _ raw _ none => some raw
  | _ => none

def Callback.exclusive : Callback → Option Bytes
  | .sendPayload _ raw _ => some raw
  | _ => none

attribute [simp] Task.draining Task.exclusive Callback.exclusive

def Lane.flow (lane : Lane) (id : Nat) : Flow where
  id := id
  issue := lane.pipe.issue
  entries := lane.pipe.completions.map SqCompletion.request
  queue := gather Task.draining lane.tasks ++
    lane.pipe.preparedWrites.map fun prepared => prepared.request.position
  exclusive := gather Task.exclusive lane.tasks ++ gather Callback.exclusive lane.calls
  trace := lane.trace

theorem State.Calm.lane {state : State} (calm : state.Calm) (id : Nat) :
    ∀ task ∈ (state.lane id).tasks, task.urgent = false :=
  fun task membership => calm task (List.mem_of_mem_filter membership)

/-- No submission is waiting below the top of the stack. -/
theorem State.Calm.draining {state : State} (calm : state.Calm) (id : Nat) :
    gather Task.draining (state.lane id).tasks = [] := by
  refine gather_eq_nil.mpr fun task membership => ?_
  have := calm.lane id task membership
  cases task <;> simp_all

theorem State.Calm.exclusive {state : State} (calm : state.Calm) (id : Nat) :
    gather Task.exclusive (state.lane id).tasks = [] := by
  refine gather_eq_nil.mpr fun task membership => ?_
  have := calm.lane id task membership
  cases task <;> simp_all

/-- The owner of the fetch lock is alone, and no fenced entry is unretired. -/
theorem Lane.Locked.taken {base : State} {id : Nat} {task : Task}
    (locked : ((base.push [task]).lane id).Locked) (own : task.on id = true)
    (taking : task.fetching = true) :
    gather Callback.exclusive (base.lane id).calls = [] ∧
      ((base.lane id).pipe.completions.map SqCompletion.request).any SqRequest.ordered =
        false := by
  have fetch := locked.fetch
  have reserving := locked.reserving
  have closed := locked.closed
  simp only [Lane.gate, State.lane_push, List.filter_cons_of_pos own, List.filter_nil,
    List.cons_append, List.nil_append, tally_cons, taking, Bool.toNat_true] at fetch reserving closed
  have single := Bool.toNat_le (base.lane id).pipe.fetching
  refine ⟨gather_eq_nil.mpr fun callback membership => ?_, ?_⟩
  · by_contra some
    have : callback.fetching = true := by
      cases callback <;> simp_all
    have := tally_pos_of_mem membership this
    simp only [Lane.pipe] at *
    omega
  · have unordered := reserving (by omega)
    by_contra fenced
    have := closed (by simpa using fenced)
    simp only [Lane.pipe] at *
    simp [this] at unordered

/-- A descriptor that `HandleSqWqe` admits gets its entry. -/
theorem Flow.Sound.reserve_admitted {config : Config} {state : State} {jetty : Jetty}
    {raw : Bytes} {route : TpRoute} {id : Nat} {queue : List Nat} {trace : List Observation}
    (sound : Sound ⟨id, jetty.pipe.issue, jetty.pipe.completions.map SqCompletion.request,
      queue, [], trace⟩)
    (admitted : Admitted config state jetty raw route)
    (executed : .executed id jetty.pipe.issue raw ∈ trace)
    (unfenced : (jetty.pipe.completions.map SqCompletion.request).any SqRequest.ordered = false)
    (byteCount : Nat) :
    Sound ⟨id, jetty.pipe.issue + (jetty.requestFor raw byteCount).wqebbs,
      jetty.pipe.completions.map SqCompletion.request ++ [jetty.requestFor raw byteCount],
      queue, [], trace ++ [.reserved id (jetty.requestFor raw byteCount)]⟩ :=
  sound.reserve _ rfl (Nat.lt_add_of_pos_right (SqWqe.wqebbCount_pos raw)) executed rfl
    (fun fenced => by simp [admitted.fenced fenced]) unfenced rfl

@[simp] theorem Jetty.requestFor_position (jetty : Jetty) (raw : Bytes) (byteCount : Nat) :
    (jetty.requestFor raw byteCount).position = jetty.pipe.issue := rfl

/-- A descriptor with its payload in hand is reserved and sent. -/
theorem Flow.Sound.submit {jetty : Jetty} {raw : Bytes} {id : Nat} {queue : List Nat}
    {trace : List Observation}
    (sound : Sound ⟨id, jetty.pipe.issue, jetty.pipe.completions.map SqCompletion.request,
      queue, [raw], trace⟩)
    (unfenced : (jetty.pipe.completions.map SqCompletion.request).any SqRequest.ordered = false)
    (byteCount : Nat) (frame : Frame) :
    Sound ⟨id, jetty.pipe.issue + (jetty.requestFor raw byteCount).wqebbs,
      jetty.pipe.completions.map SqCompletion.request ++ [jetty.requestFor raw byteCount],
      queue, [], trace ++ [.reserved id (jetty.requestFor raw byteCount)] ++
        [.sent id jetty.pipe.issue frame]⟩ := by
  obtain ⟨empty, fenced, executed⟩ := sound.alone raw (by simp)
  dsimp only at empty fenced
  subst empty
  have free := sound.forget (List.nil_subset _)
  have reserved := free.reserve (jetty.pipe.issue + (jetty.requestFor raw byteCount).wqebbs)
    (jetty.requestFor_position raw byteCount)
    (Nat.lt_add_of_pos_right (SqWqe.wqebbCount_pos raw)) executed rfl fenced unfenced rfl
  exact reserved.send_reserved frame sound.sent_below fenced (by simpa using unfenced)

theorem Ran.flowing {config : Config} {base after : State} {id : Nat} {task : Task}
    (ran : Ran config base id task after) (own : task.on id = true) (calm : base.Calm)
    (locked : ((base.push [task]).lane id).Locked)
    (sound : (((base.push [task]).lane id).flow id).Sound) :
    ((after.lane id).flow id).Sound := by
  have drains := calm.draining id
  have exclusives := calm.exclusive id
  unfold Lane.flow at sound ⊢
  cases ran with
  | absent task missing silent =>
      simp only [State.lane_push, gather_append, List.append_assoc] at sound
      exact (sound.drop _).forget (by simp)
  | completeAbsent request status substatus missing =>
      simp at sound
      simpa using sound.observe [_] (by simp [Observation.silent])
  | processSq producer direct jetty _ existing outcome =>
      have same := base.lane_jetty id existing
      cases outcome <;> simpa [same] using sound
  | resumeSq jetty _ existing outcome =>
      have same := base.lane_jetty id existing
      cases outcome <;> simpa [same] using sound
  | processSqLoop producer jetty _ existing outcome =>
      have same := base.lane_jetty id existing
      cases outcome <;> simpa [same] using sound
  | fillSqCache producer targetProducer jetty _ existing outcome =>
      have same := base.lane_jetty id existing
      cases outcome with
      | fetched => 
          simp [same] at sound
          simpa using sound.observe [_] (by simp [Observation.silent])
      | _ => simpa [same] using sound
  | executeSqHead producer targetProducer jetty _ existing outcome =>
      have same := base.lane_jetty id existing
      cases outcome <;> simpa [same] using sound
  | continueLast raw nextSlot => simpa using sound
  | continueRead raw remaining nextSlot jetty existing more =>
      simp at sound
      simpa using sound.observe [_] (by simp [Observation.silent])
  | handleSqWqe raw jetty _ existing outcome =>
      have same := base.lane_jetty id existing
      obtain ⟨none, unfenced⟩ := locked.taken own rfl
      simp [same, drains, exclusives] at sound
      simp only [Lane.pipe, same] at unfenced
      have plain : ∀ entry ∈ jetty.pipe.completions.map SqCompletion.request,
          entry.ordered = false := by
        simpa using unfenced
      replace sound := sound.observe [.executed id jetty.pipe.issue raw]
        (by simp [Observation.silent])
      cases outcome with
      | failed => simpa [Jetty.fail, Jetty.release, drains, exclusives] using sound
      | released => simpa [Jetty.release, drains, exclusives] using sound
      | read route frame pending admitted opcode tpn port owner number request =>
          have empty := admitted.alone (.inl (by omega))
          rw [none, empty] at sound
          have reserved := sound.reserve_admitted admitted (by simp) unfenced
            (SqWqe.firstSge raw).length
          have sent := reserved.send_reserved frame sound.sent_below
            (fun fenced => by simp [admitted.fenced fenced]) plain
          simpa [reserveSq, SqPipeline.reserve, drains, exclusives, none, empty] using sent
      | prepared route admitted opcode =>
          rw [none] at sound
          have reserved := sound.reserve_admitted admitted (by simp) unfenced
            (SqWqe.firstSge raw).length
          have queued := reserved.enqueue sound.queue_below sound.sent_below plain rfl
          simpa [prepareWrite, reserveSq, SqPipeline.reserve, drains, exclusives, none,
            Jetty.requestFor] using queued.observe [_] (by simp [Observation.silent])
      | rejected route length admitted opcode =>
          rw [none] at sound
          have reserved := sound.reserve_admitted admitted (by simp) unfenced length
          simpa [rejectSend, reserveSq, SqPipeline.reserve, drains, exclusives, none,
            Jetty.requestFor] using reserved
      | inlined route payload admitted alone =>
          have taken := sound.take raw (by simp [alone])
            (fun fenced => by simp [admitted.fenced fenced]) (by simp)
          simpa [same, drains, exclusives] using taken
      | reading route observation expected admitted alone observed =>
          have taken := sound.take raw (by simp [alone])
            (fun fenced => by simp [admitted.fenced fenced]) (by simp)
          have read := taken.observe [observation] (by simp [observed, Observation.silent])
          simpa [same, drains, exclusives, none, observed] using read
  | drainPreparedWrites jetty _ existing outcome =>
      have same := base.lane_jetty id existing
      simp [same, drains, exclusives] at sound
      cases outcome with
      | resumed => simpa [same, drains, exclusives] using sound
      | failed front rest queue ready broken =>
          simp only [queue, List.map_cons] at sound
          simpa [drains, exclusives] using sound.drop [_]
      | submitted front rest queue ready intact =>
          simp only [queue, List.map_cons] at sound
          simpa [drains, exclusives] using sound
  | submitSqPayload raw payload reserved jetty _ existing outcome =>
      have same := base.lane_jetty id existing
      cases outcome with
      | released broken =>
          simp [same, drains, exclusives] at sound
          simpa [Jetty.release, drains, exclusives] using sound.forget (by simp)
      | lost reserved reason =>
          simp only [State.lane_push, gather_append, List.append_assoc] at sound
          exact (sound.drop _).forget (by simp)
      | freshSend route frame opcode good found tpn port =>
          obtain ⟨none, unfenced⟩ := locked.taken own rfl
          simp only [Lane.pipe, same] at unfenced
          simp [same, drains, exclusives, none] at sound
          simpa [reserveSq, SqPipeline.reserve, drains, exclusives, none] using
            sound.submit unfenced payload.length frame
      | freshWrite route frame pending opcode good found tpn port owner number request =>
          obtain ⟨none, unfenced⟩ := locked.taken own rfl
          simp only [Lane.pipe, same] at unfenced
          simp [same, drains, exclusives, none] at sound
          simpa [reserveSq, SqPipeline.reserve, drains, exclusives, none] using
            sound.submit unfenced payload.length frame
      | heldSend held route frame opcode found tpn port =>
          simp [same, drains, exclusives] at sound
          simpa [same, drains, exclusives] using sound.send_waiting frame
      | heldWrite held route frame pending opcode found tpn port owner number request =>
          simp [same, drains, exclusives] at sound
          simpa [same, drains, exclusives] using sound.send_waiting frame
  | releaseSqFetch jetty existing =>
      have same := base.lane_jetty id existing
      simpa [same, Jetty.release] using sound
  | completeSq request status substatus jetty _ existing outcome =>
      have same := base.lane_jetty id existing
      simp [same] at sound
      replace sound := sound.observe [.completed id request status substatus]
        (by simp [Observation.silent])
      cases outcome with
      | ignored => simpa [same] using sound
      | marked entry found waiting size =>
          have kept := completions_requests_complete request status substatus
            jetty.pipe.completions
          simpa [same, kept] using sound
  | retireSq jetty _ existing outcome =>
      have same := base.lane_jetty id existing
      cases outcome with
      | skipped => simpa [same] using sound
      | entered =>
          unfold retireLoop
          split <;> simpa [same] using sound
  | retireSqLoop jetty _ existing outcome =>
      have same := base.lane_jetty id existing
      simp [same] at sound
      cases outcome with
      | stopped => simpa using sound
      | published =>
          unfold publishSq
          split
          · simpa using sound.observe [_] (by simp [Observation.silent])
          · simpa using sound
  | retireSqPipelinedLoop jetty _ existing outcome =>
      have same := base.lane_jetty id existing
      simp [same] at sound
      cases outcome with
      | stopped => simpa using sound
      | published =>
          have kept := completions_requests_start jetty.pipe.completions
          unfold publishSq
          split
          · simpa [kept] using sound.observe [_] (by simp [Observation.silent])
          · simpa [kept] using sound
  | finishKept entry => simpa using sound
  | finishPopped entry jetty existing =>
      have same := base.lane_jetty id existing
      have shape : jetty.pipe.completions.map SqCompletion.request =
          (jetty.pipe.completions.take 1).map SqCompletion.request ++
            jetty.pipe.completions.tail.map SqCompletion.request := by
        rw [← List.map_append, ← List.drop_one, List.take_append_drop]
      simp only [State.lane_push, Lane.pipe, same, shape] at sound
      simpa [SqPipeline.pop, Function.comp_def, -List.map_take, -List.map_tail] using
        sound.retire
  | finishSqPipelined entry ok jetty _ existing outcome =>
      have same := base.lane_jetty id existing
      simp [same] at sound
      cases outcome with
      | broken => simpa using sound
      | retired current marked good found started waiting marking =>
          have kept := completions_requests_finish entry jetty.pipe.completions
          rw [← marking] at kept
          have shape : jetty.pipe.completions.map SqCompletion.request =
              (marked.takeWhile (·.publicationDone)).map SqCompletion.request ++
                (marked.dropWhile (·.publicationDone)).map SqCompletion.request := by
            rw [← List.map_append, List.takeWhile_append_dropWhile, kept]
          rw [shape] at sound
          simpa [SqPipeline.retire, Function.comp_def] using sound.retire

theorem Called.flowing {config : Config} {base after : State} {ok : Bool} {bytes : Bytes}
    {id : Nat} {callback : Callback}
    (called : Called config base ok bytes id callback after)
    (sound : (Lane.flow { base.lane id with calls := callback :: (base.lane id).calls }
      id).Sound) :
    ((after.lane id).flow id).Sound := by
  unfold Lane.flow at sound ⊢
  cases called with
  | absent callback missing =>
      exact sound.forget (by simp)
  | prefetch start count jetty _ existing outcome =>
      have same := base.lane_jetty id existing
      cases outcome <;> simpa [same, SqPipeline.prefetched] using sound
  | continuation raw remaining nextSlot contiguous jetty _ existing outcome =>
      have same := base.lane_jetty id existing
      cases outcome with
      | failed => simpa [same, Jetty.fail, Jetty.release] using sound
      | arrived => simpa [same] using sound
  | writePayload position expected jetty existing =>
      have same := base.lane_jetty id existing
      have kept : ∀ prepared : PreparedWrite,
          (if prepared.request.position = position then prepared.arrive expected ok bytes
            else prepared).request = prepared.request := by
        intro prepared
        unfold PreparedWrite.arrive
        split
        · split <;> rfl
        · rfl
      simpa [same, Function.comp_def, kept] using sound
  | sendPayload raw expected jetty _ existing outcome =>
      have same := base.lane_jetty id existing
      simp [same] at sound
      cases outcome with
      | failed => simpa [Jetty.fail, Jetty.release] using sound.forget (by simp)
      | arrived => simpa [same] using sound.forget (by simp)
  | sendFailed request requestId bad =>
      split
      · simpa [State.lane] using sound
      · simpa using sound
  | writeSent request requestId good opcode => simpa using sound
  | sendDone request requestId good opcode => simpa using sound
  | cqe entry =>
      simp at sound
      split
      · simpa using sound.observe [_] (by simp [Observation.silent])
      · simpa using sound.observe [_] (by simp [Observation.silent])

/-- The order in which callbacks are held does not matter. -/
theorem Flow.Sound.perm {lane : Lane} {calls : List Callback} {id : Nat}
    (sound : (lane.flow id).Sound) (same : lane.calls.Perm calls) :
    (Lane.flow { lane with calls := calls } id).Sound := by
  unfold Lane.flow at sound ⊢
  refine sound.forget ?_
  intro raw membership
  rcases List.mem_append.mp membership with old | held
  · exact List.mem_append_left _ old
  · exact List.mem_append_right _ ((gather_perm same).symm.subset held)

theorem Acts.flowing {config : Config} {id : Nat} {state after : State} {event : Event}
    (acts : Acts config id state event after) (locked : (state.lane id).Locked)
    (sound : ((state.lane id).flow id).Sound) : ((after.lane id).flow id).Sound := by
  cases acts with
  | task base task _ before own calm ran =>
      exact ran.flowing own calm (before ▸ locked) (before ▸ sound)
  | callback index ok bytes callback calls base _ own calm before chosen held called =>
      refine called.flowing ?_
      rw [before, State.lane_holding] at sound
      refine sound.perm ?_
      have := held.filter (Callback.on id)
      rwa [List.filter_cons_of_pos own] at this
  | progressed _ _ pending progress earlier later observed calm held owner request silent lane =>
      rw [lane]
      unfold Lane.flow at sound ⊢
      refine sound.observe observed fun item membership => ?_
      obtain ⟨token, address, length, rfl⟩ := silent item membership
      rfl
  | finished _ _ pending earlier later status calm held lane =>
      rw [lane]
      unfold Lane.flow at sound ⊢
      simpa using sound
  | doorbell producer calm =>
      unfold Lane.flow at sound ⊢
      simpa using sound
  | direct offset data jetty _ calm existing outcome =>
      have same := state.lane_jetty id existing
      unfold Lane.flow at sound ⊢
      simp only [Lane.pipe, same] at sound
      cases outcome with
      | stored => simpa [Jetty.pipe] using sound
      | completed =>
          simpa [Jetty.pipe] using sound.observe [_] (by simp [Observation.silent])
  | created context jetty calm missing fresh =>
      rw [State.lane_setJetty]
      unfold Lane.flow at sound ⊢
      simpa [missing, fresh.pipe] using sound

theorem flowing_of_reaches {config : Config} {guard : State → Event → State → Prop}
    {state : State} (reached : Reaches (step config) guard (State.initial config) state)
    (id : Nat) : ((state.lane id).flow id).Sound := by
  refine lane_of_reaches id (fun lane => (lane.flow id).Sound) reached ?_ ?_
  · rw [State.initial_lane]
    exact ⟨rfl, by simp [Lane.flow], by simp [Lane.flow], by simp [Lane.flow],
      by simp [Lane.flow], by simp [Lane.flow], by simp [Lane.flow], by simp [Lane.flow],
      by simp [Lane.flow], .nil⟩
  · intro before event after earlier sound acts _ _
    exact acts.flowing (locked_of_reaches earlier id) sound

theorem mem_reservedIn {trace : List Observation} {request : SqRequest} :
    request ∈ reservedIn trace ↔ ∃ id, .reserved id request ∈ trace := by
  simp only [reservedIn, List.mem_filterMap]
  constructor
  · rintro ⟨item, membership, selected⟩
    cases item <;> simp [Observation.reservedRequest] at selected
    next id other =>
      subst selected
      exact ⟨id, membership⟩
  · rintro ⟨id, membership⟩
    exact ⟨_, membership, rfl⟩

/-- Every descriptor on record was executed at its position, with its own ordering. -/
theorem Flow.Sound.executed {state : State} {id : Nat} (sound : ((state.lane id).flow id).Sound)
    {before after : List Observation} (shape : (state.lane id).trace = before ++ after)
    {request : SqRequest} (reserved : request ∈ reservedIn before) :
    ∃ raw, .executed id request.position raw ∈ before ∧
      request.ordered = SqWqe.ordered raw := by
  obtain ⟨owner, membership⟩ := mem_reservedIn.mp reserved
  have own : owner = id := by
    have : Observation.reserved owner request ∈ (state.lane id).trace := by
      rw [shape]
      exact List.mem_append_left _ membership
    simpa using (List.mem_filter.mp this).2
  subst own
  obtain ⟨first, second, rfl⟩ := List.append_of_mem membership
  obtain ⟨raw, executed, faithful⟩ := sound.emitted first (.reserved owner request)
    (second ++ after) (by simpa [Lane.flow] using shape)
  exact ⟨raw, by simp [executed], faithful⟩

/-- In every run and for every Jetty, each request frame follows the frames of all
older descriptors; the frame of a descriptor with strong placement or the fence flag
leaves only when every older descriptor has retired, and no frame of a younger
descriptor leaves before a fenced one has retired. -/
theorem frames_sent_in_order_and_fenced {config : Config} {state : State}
    (reached : Reaches (step config) always (State.initial config) state) (id : Nat)
    {before after : List Observation} {position : Nat} {frame : Frame}
    (shape : (state.lane id).trace = before ++ .sent id position frame :: after) :
    (∀ request ∈ reservedIn before, ∃ raw, .executed id request.position raw ∈ before ∧
      request.ordered = SqWqe.ordered raw) ∧
    (∀ earlier ∈ sentIn before, earlier < position) ∧
    ∃ request ∈ reservedIn before, request.position = position ∧
      (request.ordered = true → ∀ older ∈ reservedIn before,
        older.position < position → older ∈ retiredIn before) ∧
      ∀ fenced ∈ reservedIn before, fenced.ordered = true →
        fenced.position < position → fenced ∈ retiredIn before := by
  have sound := flowing_of_reaches reached id
  obtain ⟨later, request, reserved, placed, waits, closed⟩ :=
    sound.emitted before (.sent id position frame) after shape
  exact ⟨fun other membership => sound.executed shape membership, later, request, reserved,
    placed, waits, closed⟩

/-- A READ and a fenced READ are posted; the fenced frame leaves when an error reply has
retired the first. -/
theorem fenced_read_sent_after_retirement :
    ∃ state before frame,
      Reaches (step (.small false)) always (State.initial (.small false)) state ∧
      (state.lane 9).trace = before ++ [.sent 9 1 frame] ∧
      (∀ earlier ∈ sentIn before, earlier < 1) ∧
      ∃ request ∈ reservedIn before, request.position = 1 ∧
        (request.ordered = true → ∀ older ∈ reservedIn before,
          older.position < 1 → older ∈ retiredIn before) := by
  let read (flags : Nat) := SqWqe.image true 0 flags 6 1 0x8000 ⟨4, 0, 0x8000⟩
  let events : List Event := opening 9 3 ++ [.doorbell 9 2] ++ runs 7 ++
    [.fire 0 true (read 0 ++ read 8)] ++ runs 13 ++
    [.receive { operation := .rmaError, requestId := 1 }] ++ runs 16
  obtain ⟨state, reached, last⟩ := exists_of_execute
    (show (execute (step (.small false)) always events (State.initial (.small false))).map
      (fun state => (state.lane 9).trace.getLast?.bind Observation.sentPosition) =
        some (some 1) by decide +kernel)
  obtain ⟨observation, found, sent⟩ := Option.bind_eq_some_iff.mp last
  obtain ⟨before, shape⟩ := List.getLast?_eq_some_iff.mp found
  have own : observation.on 9 = true := by
    have membership : observation ∈ (state.lane 9).trace := by simp [shape]
    exact (List.mem_filter.mp membership).2
  cases observation <;> simp [Observation.sentPosition] at sent
  next id position frame =>
    obtain rfl : id = 9 := by simpa using own
    subst sent
    obtain ⟨_, later, request, reserved, placed, waits, _⟩ :=
      frames_sent_in_order_and_fenced reached 9 shape
    exact ⟨state, before, frame, reached, shape, later, request, reserved, placed, waits⟩

end Udma.Sq
