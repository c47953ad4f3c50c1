import Udma.Sq.Prefetch
import Udma.Sq.Ring

/-!
# Whether a call of `ProcessSq` serves the head of the queue

With no prefetch in flight, a call either hands the descriptor at `issue` over or
starts a read, unless `FillSqCache` holds its burst back: it does so as soon as the
first block of the head is cached, although the head may need further blocks.
-/

namespace Udma.Sq

open Udma.Abi Udma.Arithmetic Udma.Collections Udma.Transition

/-! ## The consumer behind `issue` -/

namespace Ledger

/-- The entries take the blocks from the consumer up to `issue`. -/
def Level (ledger : Ledger) : Prop :=
  ledger.consumer + (ledger.entries.map SqCompletion.wqebbs).sum = ledger.issue

theorem map_wqebbs_of_places {earlier later : List SqCompletion}
    (places : later.map SqCompletion.place = earlier.map SqCompletion.place) :
    later.map SqCompletion.wqebbs = earlier.map SqCompletion.wqebbs := by
  have widths := congrArg (List.map fun place : SqRequest × Nat × Nat => place.2.1) places
  rw [List.map_map, List.map_map] at widths
  exact widths

theorem Step.level {pipelined : Bool} {id : Nat} {tardy lossy : Prop} {ledger next : Ledger}
    (step : Step pipelined id tardy lossy ledger next)
    (serial : pipelined = false → ledger.Serial id) (level : ledger.Level) : next.Level := by
  unfold Level at level ⊢
  cases step with
  | same | vanish | create | merge | capture | direct | forget | take | release | late | lose
  | ignore | publish | report | keep | abort => exact level
  | reserve request =>
      have width : request.entry.wqebbs = request.wqebbs := rfl
      simp only [List.map_append, List.map_cons, List.map_nil, List.sum_append, List.sum_cons,
        List.sum_nil, width]
      omega
  | complete request status substatus owners entry held found waiting size =>
      rw [map_wqebbs_of_places (complete_places found size status substatus)]
      exact level
  | publishNext =>
      rw [map_wqebbs_of_places (start_places ledger.entries)]
      exact level
  | pop entry finishers mode held =>
      have front := ((serial mode).front (entry, some true) (by simp [held])).1
      obtain ⟨rest, queue⟩ := List.head?_eq_some_iff.mp front
      simp only [queue, List.map_cons, List.sum_cons, List.tail_cons] at level ⊢
      omega
  | retire entry current marked finishers mode held found started waiting marking =>
      have widths := map_wqebbs_of_places (finish_places entry ledger.entries)
      have split : (marked.takeWhile (·.publicationDone)).map SqCompletion.wqebbs ++
          (marked.dropWhile (·.publicationDone)).map SqCompletion.wqebbs =
            ledger.entries.map SqCompletion.wqebbs := by
        rw [← List.map_append, List.takeWhile_append_dropWhile, marking, widths]
      rw [← split, List.sum_append] at level
      dsimp only
      omega

end Ledger

theorem level_of_reaches {config : Config} {guard : State → Event → State → Prop} {state : State}
    (reached : Reaches (step config) guard (State.initial config) state) (id : Nat) :
    (state.lane id).ledger.Level := by
  have both : (state.lane id).ledger.Level ∧
      (config.pipelinedCompletionDma = false → (state.lane id).ledger.Serial id) := by
    refine ledger_of_reaches id (fun ledger => ledger.Level ∧
      (config.pipelinedCompletionDma = false → ledger.Serial id)) reached
      ⟨rfl, fun mode => (Ledger.initial_published _ id).serial mode⟩ ?_
    rintro before event after earlier allowed ⟨level, serial⟩ step
    exact ⟨step.level serial level, fun mode => step.keepsSerial mode (serial mode)⟩
  exact both.1

/-! ## The cached blocks -/

namespace Cache

theorem find_eq_none {cache : Cache} {position : Nat}
    (missing : position ∉ cache.map Prod.fst) : cache.find position = none := by
  unfold find
  rw [Option.map_eq_none_iff, List.find?_eq_none]
  intro entry membership same
  apply missing
  rw [← eq_of_beq same]
  exact List.mem_map_of_mem membership

theorem find_of_mem {cache : Cache} {position : Nat}
    (present : position ∈ cache.map Prod.fst) : ∃ block, cache.find position = some block := by
  obtain ⟨entry, membership, same⟩ := List.mem_map.mp present
  apply Option.isSome_iff_exists.mp
  unfold find
  rw [Option.isSome_map, List.find?_isSome]
  exact ⟨entry, membership, by simpa using same⟩

/-- Further entries do not hide a cached block. -/
theorem find_append {cache : Cache} {position : Nat} {block : Bytes} (added : Cache)
    (found : cache.find position = some block) :
    Cache.find (cache ++ added) position = some block := by
  obtain ⟨entry, hit, rfl⟩ := Option.map_eq_some_iff.mp found
  unfold find
  rw [List.find?_append, hit]
  rfl

theorem blocks_of_found {cache : Cache} {position count : Nat}
    (found : ∀ i < count, ∃ block, cache.find (position + i) = some block ∧ block ≠ []) :
    ∃ bytes, cache.blocks position count = some bytes := by
  induction count generalizing position with
  | zero => exact ⟨[], rfl⟩
  | succ count inductionHypothesis =>
      obtain ⟨block, hit, arrived⟩ := found 0 (Nat.succ_pos _)
      obtain ⟨rest, tail⟩ := @inductionHypothesis (position + 1) (by
        intro i inside
        rw [Nat.add_assoc, Nat.add_comm 1 i]
        exact found (i + 1) (by omega))
      rw [Nat.add_zero] at hit
      have whole : block.isEmpty = false := by simpa using arrived
      exact ⟨block ++ rest, by simp [blocks, hit, whole, tail]⟩

theorem blocks_of_missing {cache : Cache} {position count i : Nat} (inside : i < count)
    (missing : ∀ block, cache.find (position + i) = some block → block = []) :
    cache.blocks position count = none := by
  induction count generalizing position i with
  | zero => omega
  | succ count inductionHypothesis =>
      unfold blocks
      split
      next => rfl
      next block hit =>
        split
        next => rfl
        next arrived =>
          cases i with
          | zero =>
              have empty := missing block hit
              simp [empty] at arrived
          | succ i =>
              have later := @inductionHypothesis (position + 1) i (by omega) (by
                rwa [Nat.add_assoc, Nat.add_comm 1 i])
              rw [later]
              rfl

end Cache

/-- With no read outstanding the cache holds whole blocks from `issue` on, and the next read
continues them. -/
structure Jetty.Primed (jetty : Jetty) : Prop where
  keys : jetty.pipe.cache.map Prod.fst =
    List.range' jetty.pipe.issue jetty.pipe.cache.length
  arrived : ∀ entry ∈ jetty.pipe.cache, entry.2 ≠ []
  extent : max jetty.pipe.nextFetch jetty.pipe.issue =
    jetty.pipe.issue + jetty.pipe.cache.length
  behind : jetty.context.consumer ≤ jetty.pipe.issue

theorem primed_of_reaches {config : Config} {guard : State → Event → State → Prop} {state : State}
    (reached : Reaches (step config) guard (State.initial config) state) {id : Nat}
    {jetty : Jetty} (existing : state.jetty id = some jetty)
    (idle : jetty.pipe.prefetchInflight = 0) (intact : jetty.pipe.prefetchFailed = false) :
    jetty.Primed := by
  obtain rfl := state.lane_jetty id existing
  have sound := stocked_of_reaches reached id
  have level : (state.lane id).context.consumer +
      ((state.lane id).pipe.completions.map SqCompletion.wqebbs).sum =
        (state.lane id).pipe.issue := level_of_reaches reached id
  have keys : (state.lane id).jetty.pipe.cache.map Prod.fst =
      List.range' (state.lane id).jetty.pipe.issue
        ((state.lane id).jetty.pipe.nextFetch - (state.lane id).jetty.pipe.issue) := sound.keys
  have size : (state.lane id).jetty.pipe.cache.length =
      (state.lane id).jetty.pipe.nextFetch - (state.lane id).jetty.pipe.issue := by
    simpa using congrArg List.length keys
  have unread : (state.lane id).stock.reads = [] := by
    apply List.eq_nil_of_length_eq_zero
    rw [← sound.counted]
    exact idle
  refine ⟨by rw [size, keys], ?_, by omega, by unfold Lane.context Lane.pipe at level; omega⟩
  intro entry membership empty
  obtain ⟨read, known, _⟩ := sound.pending intact entry membership empty
  simp [unread] at known

/-! ## A call of `ProcessSq` -/

/-- The states of an activation above `rest`, up to its return.  The host answers the reads of
the activation later. -/
inductive Within (config : Config) (rest : List Task) : State → State → Prop where
  | here (state : State) : Within config rest state state
  | run {state next later : State} : rest.length < state.stack.length →
      step config state .run = some next → Within config rest next later →
      Within config rest state later

/-- The descriptor at `position` is handed to `HandleSqWqe`. -/
def Handed (state : State) (id position : Nat) (rest : List Task) : Prop :=
  ∃ raw more jetty, state.stack = .handleSqWqe id raw :: more ∧ rest.length ≤ more.length ∧
    state.jetty id = some jetty ∧ jetty.pipe.issue = position

/-- The activation has returned with a prefetch in flight. -/
def ReturnedFetching (state : State) (id : Nat) (rest : List Task) : Prop :=
  state.stack = rest ∧ ∃ jetty, state.jetty id = some jetty ∧ jetty.pipe.prefetchInflight ≠ 0

def Served (config : Config) (state : State) (id position : Nat) (rest : List Task) : Prop :=
  ∃ later, Within config rest state later ∧
    (Handed later id position rest ∨ ReturnedFetching later id rest)

/-- Where an activation stands. -/
structure Stands (id : Nat) (rest tasks : List Task) (jetty : Jetty) (state : State) : Prop where
  jetty : state.jetty id = some jetty
  stack : state.stack = tasks ++ rest

section Call

variable {config : Config} {id producer target : Nat} {rest : List Task} {jetty : Jetty}
  {state : State}

theorem Within.trans {first second third : State} (one : Within config rest first second)
    (two : Within config rest second third) : Within config rest first third := by
  induction one with
  | here => exact two
  | run inside taken _ inductionHypothesis => exact .run inside taken (inductionHypothesis two)

theorem Stands.inside {task : Task} {tasks : List Task}
    (stands : Stands id rest (task :: tasks) jetty state) :
    rest.length < state.stack.length := by
  rw [stands.stack, List.length_append, List.length_cons]
  omega

/-- The activation runs its next task. -/
theorem Stands.runs {task : Task} {tasks : List Task}
    (stands : Stands id rest (task :: tasks) jetty state) :
    step config state .run = some (exec config { state with stack := tasks ++ rest } task) := by
  simp [step, stands.stack]

theorem Stands.external {tasks : List Task}
    (stands : Stands id rest (.external :: tasks) jetty state) :
    ∃ next, step config state .run = some next ∧ Stands id rest tasks jetty next :=
  ⟨_, stands.runs, stands.jetty, rfl⟩

/-- The loop ends when nobody has kicked it. -/
theorem Stands.leave (stands : Stands id rest [.processSqLoop id producer .check] jetty state)
    (still : jetty.pipe.kick = false) :
    ∃ next, step config state .run = some next ∧
      Stands id rest [] ⟨jetty.context, some { jetty.pipe with dispatching := false }⟩ next := by
  refine ⟨_, stands.runs, ?_, ?_⟩
  · simp [exec, processSqLoop, stands.jetty, still]
  · simp [exec, processSqLoop, stands.jetty, still]

/-- `FillSqCache` stops. -/
def Stops (config : Config) (jetty : Jetty) : Prop :=
  jetty.pipe.prefetchFailed = true ∨
    config.sqFetchMaxOutstanding ≤ jetty.pipe.prefetchInflight ∨
    config.sqPrefetchWqebbs ≤ jetty.pipe.cache.length ∨
    sub32 jetty.context.targetProducer jetty.pipe.nextFetch = 0 ∨
    jetty.context.depth < sub32 jetty.context.targetProducer jetty.pipe.nextFetch ∨
    (config.sqPrefetchWqebbs - jetty.pipe.cache.length < config.sqFetchBurstWqebbs ∧
      config.sqFetchBurstWqebbs ≤ sub32 jetty.context.targetProducer jetty.pipe.nextFetch ∧
      (jetty.pipe.cache.find jetty.pipe.issue).isSome = true)

theorem fillSqCache_stops (existing : state.jetty id = some jetty) (stops : Stops config jetty) :
    fillSqCache config state id producer target =
      state.push [.processSqLoop id producer (.head target)] := by
  simp only [fillSqCache, existing]
  split
  next => rfl
  next going =>
    split
    next => rfl
    next some =>
      split
      next => rfl
      next free =>
        exfalso
        unfold Stops at stops
        tauto

/-- The Jetty when a burst has been started. -/
def Jetty.bursting (config : Config) (jetty : Jetty) : Jetty :=
  ⟨{ jetty.context with busy := true }, some { jetty.pipe with
    cache := jetty.pipe.cache ++
      (List.range (prefetchCount config jetty.context jetty.pipe)).map
        fun i => (jetty.pipe.nextFetch + i, [])
    nextFetch := jetty.pipe.nextFetch + prefetchCount config jetty.context jetty.pipe
    prefetchInflight := jetty.pipe.prefetchInflight + 1 }⟩

theorem fillSqCache_goes (existing : state.jetty id = some jetty)
    (goes : ¬ Stops config jetty) :
    ∃ observation callback, fillSqCache config state id producer target =
      (((state.setJetty id (jetty.bursting config)).emit [observation]).push
        [.processSqLoop id producer (.fill target)]).call callback := by
  simp only [fillSqCache, existing]
  unfold Stops at goes
  split
  next => tauto
  next =>
    split
    next => tauto
    next =>
      split
      next => tauto
      next => exact ⟨_, _, rfl⟩

theorem Stands.stop
    (stands : Stands id rest [.processSqLoop id producer (.fill target)] jetty state)
    (stops : Stops config jetty) :
    ∃ next, step config state .run = some next ∧
      Stands id rest [.processSqLoop id producer (.head target)] jetty next := by
  refine ⟨_, stands.runs, ?_⟩
  have stopped : exec config { state with stack := [] ++ rest }
      (.processSqLoop id producer (.fill target)) =
        State.push { state with stack := [] ++ rest } [.processSqLoop id producer (.head target)] :=
    fillSqCache_stops stands.jetty stops
  rw [stopped]
  exact ⟨stands.jetty, rfl⟩

/-- What the loop of `FillSqCache` leaves alone. -/
structure Filled (before after : Jetty) : Prop where
  context : ∃ busy, after.context = { before.context with busy := busy }
  pipe : ∃ added nextFetch inflight, (∀ entry ∈ added, entry.2 = []) ∧
    before.pipe.prefetchInflight ≤ inflight ∧
    after.pipe = { before.pipe with
      cache := before.pipe.cache ++ added
      nextFetch := nextFetch
      prefetchInflight := inflight }

theorem Filled.refl (jetty : Jetty) : Filled jetty jetty := by
  refine ⟨⟨jetty.context.busy, rfl⟩, [], jetty.pipe.nextFetch, jetty.pipe.prefetchInflight,
    by simp, Nat.le_refl _, ?_⟩
  rw [List.append_nil]

theorem Filled.trans {first second third : Jetty} (one : Filled first second)
    (two : Filled second third) : Filled first third := by
  obtain ⟨⟨busy, context⟩, added, nextFetch, inflight, empty, more, pipe⟩ := one
  obtain ⟨⟨busy', context'⟩, added', nextFetch', inflight', empty', more', pipe'⟩ := two
  rw [context] at context'
  rw [pipe] at pipe' more'
  refine ⟨⟨busy', context'⟩, added ++ added', nextFetch', inflight', ?_,
    Nat.le_trans more more', ?_⟩
  · intro entry membership
    rcases List.mem_append.mp membership with first | second
    · exact empty entry first
    · exact empty' entry second
  · rw [← List.append_assoc]
    exact pipe'

theorem Filled.bursting (config : Config) (jetty : Jetty) :
    Filled jetty (jetty.bursting config) := by
  refine ⟨⟨true, rfl⟩, _, _, _, ?_, Nat.le_succ _, rfl⟩
  intro entry membership
  obtain ⟨i, _, rfl⟩ := List.mem_map.mp membership
  rfl

theorem Filled.kick {after : Jetty} (filled : Filled jetty after) :
    after.pipe.kick = jetty.pipe.kick := by
  obtain ⟨_, _, _, _, _, _, pipe⟩ := filled
  rw [pipe]

theorem Filled.inflight {after : Jetty} (filled : Filled jetty after) :
    jetty.pipe.prefetchInflight ≤ after.pipe.prefetchInflight := by
  obtain ⟨_, _, _, _, _, more, pipe⟩ := filled
  rw [pipe]
  exact more

/-- `FillSqCache` starts a read. -/
theorem Stands.burst
    (stands : Stands id rest [.processSqLoop id producer (.fill target)] jetty state)
    (goes : ¬ Stops config jetty) :
    ∃ next, step config state .run = some next ∧
      Stands id rest [.external, .processSqLoop id producer (.fill target)]
        (jetty.bursting config) next := by
  obtain ⟨observation, callback, started⟩ := @fillSqCache_goes config id producer target
    jetty { state with stack := [] ++ rest } stands.jetty goes
  have taken : exec config { state with stack := [] ++ rest }
      (.processSqLoop id producer (.fill target)) = _ := started
  refine ⟨_, stands.runs, ?_⟩
  rw [taken]
  exact ⟨by simp, rfl⟩

/-- `FillSqCache` returns. -/
theorem Stands.fill (room : Nat)
    (stands : Stands id rest [.processSqLoop id producer (.fill target)] jetty state)
    (bound : config.sqFetchMaxOutstanding ≤ jetty.pipe.prefetchInflight + room) :
    ∃ later after, Within config rest state later ∧ Filled jetty after ∧
      Stands id rest [.processSqLoop id producer (.head target)] after later := by
  induction room generalizing state jetty with
  | zero =>
      obtain ⟨next, taken, stopped⟩ := @Stands.stop config _ _ _ _ _ _ stands (.inr (.inl bound))
      exact ⟨next, jetty, .run stands.inside taken (.here _), .refl _, stopped⟩
  | succ room inductionHypothesis =>
      by_cases stops : Stops config jetty
      · obtain ⟨next, taken, stopped⟩ := stands.stop stops
        exact ⟨next, jetty, .run stands.inside taken (.here _), .refl _, stopped⟩
      · obtain ⟨next, taken, started⟩ := stands.burst stops
        obtain ⟨after, returned, filling⟩ := @Stands.external config _ _ _ _ _ started
        have more : (jetty.bursting config).pipe.prefetchInflight =
            jetty.pipe.prefetchInflight + 1 := rfl
        obtain ⟨later, last, run, further, headed⟩ :=
          inductionHypothesis filling (by omega)
        exact ⟨later, last, .run stands.inside taken (.run started.inside returned run),
          (Filled.bursting config jetty).trans further, headed⟩

theorem pushed_jetty (state : State) (id : Nat) (jetty : Jetty) (tasks : List Task) :
    ((state.setJetty id jetty).push tasks).jetty id = some jetty := by
  simp

theorem Stands.enter {direct : Bytes}
    (stands : Stands id rest [.processSq id producer direct] jetty state)
    (outermost : jetty.pipe.dispatching = false) :
    ∃ next, step config state .run = some next ∧
      Stands id rest [.processSqLoop id producer .check]
        ⟨jetty.context.accept producer direct,
          some { jetty.pipe with kick := true, dispatching := true }⟩ next := by
  have existing : State.jetty { state with stack := [] ++ rest } id = some jetty := stands.jetty
  obtain ⟨next, taken, outcome⟩ : ∃ next, step config state .run = some next ∧
      ProcessOutcome { state with stack := [] ++ rest } id producer direct jetty
        (jetty.context.accept producer direct) next :=
    ⟨_, stands.runs, processSq_outcome existing producer direct⟩
  refine ⟨next, taken, ?_⟩
  cases outcome with
  | kicked dispatching => simp [outermost] at dispatching
  | entered => exact ⟨pushed_jetty .., rfl⟩

/-- `ProcessSqOnce` reaches `FillSqCache` or takes the direct image. -/
theorem Stands.once (stands : Stands id rest [.processSqLoop id producer .check] jetty state)
    (kicked : jetty.pipe.kick = true) (clear : jetty.pipe.blocked config = false)
    (behind : jetty.pipe.issue % 2 ^ 32 ≠ (jetty.context.mergeProducer producer).targetProducer)
    (near : sub32 (jetty.context.mergeProducer producer).targetProducer jetty.context.consumer ≤
      jetty.context.depth) :
    ∃ next, step config state .run = some next ∧
      (((jetty.pipe.issue + 1) % 2 ^ 32 = (jetty.context.mergeProducer producer).targetProducer ∧
        Handed next id jetty.pipe.issue rest) ∨
      Stands id rest
        [.processSqLoop id producer (.fill (jetty.context.mergeProducer producer).targetProducer)]
        ⟨jetty.context.mergeProducer producer, some { jetty.pipe with
          kick := false, nextFetch := max jetty.pipe.nextFetch jetty.pipe.issue }⟩ next) := by
  have existing : State.jetty { state with stack := [] ++ rest } id = some jetty := stands.jetty
  obtain ⟨next, taken, outcome⟩ : ∃ next, step config state .run = some next ∧
      LoopOutcome config { state with stack := [] ++ rest } id producer jetty next :=
    ⟨_, stands.runs, processSqLoop_outcome config existing producer⟩
  refine ⟨next, taken, ?_⟩
  cases outcome with
  | left quiet => simp [kicked] at quiet
  | blocked stopped => simp [clear] at stopped
  | caughtUp _ level => exact absurd level behind
  | tooFar _ far => omega
  | direct _ _ pending level =>
      exact .inl ⟨level, _, _, _, rfl, by simp, pushed_jetty .., rfl⟩
  | filling => exact .inr ⟨by simp, rfl⟩

theorem Stands.executes
    (stands : Stands id rest [.processSqLoop id producer (.head target)] jetty state) :
    ∃ next, step config state .run = some next ∧
      HeadOutcome config { state with stack := [] ++ rest } id producer target jetty next := by
  have existing : State.jetty { state with stack := [] ++ rest } id = some jetty := stands.jetty
  exact ⟨_, stands.runs, executeSqHead_outcome config existing producer target⟩

/-- The head and all its blocks are there. -/
theorem Stands.hand (stands : Stands id rest [.processSqLoop id producer (.head target)] jetty state)
    (intact : jetty.pipe.prefetchFailed = false) {head blocks : Bytes}
    (cached : jetty.pipe.cache.find jetty.pipe.issue = some head) (arrived : head ≠ [])
    (fits : SqWqe.wqebbCount head ≤ sub32 target jetty.pipe.issue ∧
      SqWqe.wqebbCount head ≤ jetty.context.depth)
    (small : SqWqe.wqebbCount head ≤ config.sqPrefetchWqebbs)
    (complete : jetty.pipe.cache.blocks (jetty.pipe.issue + 1) (SqWqe.wqebbCount head - 1) =
      some blocks) :
    ∃ next, step config state .run = some next ∧ Handed next id jetty.pipe.issue rest := by
  obtain ⟨next, taken, outcome⟩ := @Stands.executes config _ _ _ _ _ _ stands
  refine ⟨next, taken, ?_⟩
  cases outcome with
  | failed broken => simp [intact] at broken
  | absent missing =>
      rcases missing with missing | missing
      · simp [cached] at missing
      · exact absurd (Option.some.inj (cached.symm.trans missing)) arrived
  | malformed other found _ misfit =>
      obtain rfl := Option.some.inj (cached.symm.trans found)
      omega
  | incomplete other found _ _ _ missing =>
      obtain rfl := Option.some.inj (cached.symm.trans found)
      simp [complete] at missing
  | handed other more _ found _ _ _ =>
      exact ⟨_, _, _, rfl, by simp, pushed_jetty .., rfl⟩
  | oversized other _ found _ _ large =>
      obtain rfl := Option.some.inj (cached.symm.trans found)
      omega

/-- The head is not there, or not all of its blocks. -/
theorem Stands.wait (stands : Stands id rest [.processSqLoop id producer (.head target)] jetty state)
    (lacking : ∀ head, jetty.pipe.cache.find jetty.pipe.issue = some head → head ≠ [] →
      SqWqe.wqebbCount head ≤ sub32 target jetty.pipe.issue ∧
      SqWqe.wqebbCount head ≤ jetty.context.depth ∧
      SqWqe.wqebbCount head ≤ config.sqPrefetchWqebbs ∧
      jetty.pipe.cache.blocks (jetty.pipe.issue + 1) (SqWqe.wqebbCount head - 1) = none) :
    ∃ next, step config state .run = some next ∧
      Stands id rest [.processSqLoop id producer .check] jetty next := by
  obtain ⟨next, taken, outcome⟩ := @Stands.executes config _ _ _ _ _ _ stands
  refine ⟨next, taken, ?_⟩
  cases outcome with
  | failed broken => exact ⟨stands.jetty, rfl⟩
  | absent missing => exact ⟨stands.jetty, rfl⟩
  | incomplete other found _ _ _ missing => exact ⟨stands.jetty, rfl⟩
  | malformed other found arrived misfit =>
      have short := lacking other found arrived
      omega
  | handed other more _ found arrived _ complete =>
      have short := lacking other found arrived
      simp [complete] at short
  | oversized other _ found arrived _ large =>
      have short := lacking other found arrived
      omega

/-- Both ways to call `ProcessSq`. -/
theorem Stands.called {task : Task} {direct : Bytes}
    (entry : task = .processSq id producer direct ∨
      task = .resumeSq id ∧ producer = jetty.context.targetProducer ∧ direct = [])
    (stands : Stands id rest [task] jetty state) (outermost : jetty.pipe.dispatching = false) :
    ∃ next, step config state .run = some next ∧
      Stands id rest [.processSqLoop id producer .check]
        ⟨jetty.context.accept producer direct,
          some { jetty.pipe with kick := true, dispatching := true }⟩ next := by
  rcases entry with rfl | ⟨rfl, rfl, rfl⟩
  · exact stands.enter outermost
  · have calling : Stands id rest [.processSq id jetty.context.targetProducer []] jetty
        { state with stack := .processSq id jetty.context.targetProducer [] :: rest } :=
      ⟨stands.jetty, rfl⟩
    obtain ⟨next, taken, entered⟩ := @Stands.enter config _ _ _ _ _ _ calling outermost
    refine ⟨next, ?_, entered⟩
    rw [← taken, stands.runs, calling.runs]
    simp [exec, resumeSq, stands.jetty]

/-- An activation that does not hand anything over is served if its next state is. -/
theorem Stands.served_iff {task : Task} {tasks : List Task} {position : Nat} {next : State}
    (stands : Stands id rest (task :: tasks) jetty state)
    (other : ∀ raw, task ≠ .handleSqWqe id raw) (taken : step config state .run = some next) :
    Served config state id position rest ↔ Served config next id position rest := by
  constructor
  · rintro ⟨later, within, outcome⟩
    cases within with
    | here =>
        exfalso
        have inside := stands.inside
        rcases outcome with ⟨raw, more, _, top, _⟩ | ⟨back, _⟩
        · rw [stands.stack] at top
          exact other raw (List.cons.inj top).1
        · rw [back] at inside
          exact Nat.lt_irrefl _ inside
    | run inside moved within =>
        obtain rfl := Option.some.inj (taken.symm.trans moved)
        exact ⟨later, within, outcome⟩
  · rintro ⟨later, within, outcome⟩
    exact ⟨later, .run stands.inside taken within, outcome⟩

/-- Without a read in flight the activation has served nothing when it is back. -/
theorem Stands.not_served {position : Nat} (stands : Stands id rest [] jetty state)
    (idle : jetty.pipe.prefetchInflight = 0) : ¬ Served config state id position rest := by
  rintro ⟨later, within, outcome⟩
  have stack : state.stack = rest := stands.stack
  cases within with
  | here =>
      rcases outcome with ⟨raw, more, _, top, deep, _⟩ | ⟨_, found, existing, busy⟩
      · rw [stack] at top
        rw [top, List.length_cons] at deep
        omega
      · obtain rfl := Option.some.inj (stands.jetty.symm.trans existing)
        exact busy idle
  | run inside =>
      rw [stack] at inside
      exact Nat.lt_irrefl _ inside

theorem Stands.served {position : Nat} (stands : Stands id rest [] jetty state)
    (busy : jetty.pipe.prefetchInflight ≠ 0) : Served config state id position rest :=
  ⟨state, .here _, .inr ⟨stands.stack, jetty, stands.jetty, busy⟩⟩

theorem Served.of_within {position : Nat} {later : State} (within : Within config rest state later)
    (served : Served config later id position rest) : Served config state id position rest := by
  obtain ⟨last, further, outcome⟩ := served
  exact ⟨last, within.trans further, outcome⟩

end Call

/-! ## The hysteresis -/

@[simp] theorem QueueContext.accept_depth (context : QueueContext) (producer : Nat)
    (direct : Bytes) : (context.accept producer direct).depth = context.depth := by
  unfold accept
  split
  next => exact context.mergeProducer_depth producer
  next => exact context.mergeProducer_depth producer

@[simp] theorem QueueContext.accept_consumer (context : QueueContext) (producer : Nat)
    (direct : Bytes) : (context.accept producer direct).consumer = context.consumer := by
  unfold accept
  split
  next => exact context.mergeProducer_consumer producer
  next => exact context.mergeProducer_consumer producer

theorem QueueContext.merge_accept (context : QueueContext) (producer : Nat) (direct : Bytes) :
    ((context.accept producer direct).mergeProducer producer).targetProducer =
      (context.mergeProducer producer).targetProducer := by
  have target : (context.accept producer direct).targetProducer =
      (context.mergeProducer producer).targetProducer := by
    unfold accept
    split <;> rfl
  have level : ahead32 producer (context.mergeProducer producer).targetProducer = false := by
    unfold mergeProducer
    split
    next => simp [ahead32, sub32_self]
    next behind => simpa using behind
  have settled : (context.accept producer direct).mergeProducer producer =
      context.accept producer direct := by
    conv_lhs => unfold mergeProducer
    rw [target, level]
    rfl
  rw [settled, target]

theorem QueueContext.depth_le (context : QueueContext) : context.depth ≤ 2 ^ 15 := by
  have bound := context.sqShift.isLt
  rw [depth, Nat.shiftLeft_eq, Nat.one_mul]
  exact Nat.pow_le_pow_right (by decide) (by omega)

/-- A descriptor of `wqebbs` blocks is the first of `posted` blocks, and nothing but the cache
decides whether it is served. -/
structure Jetty.Ready (config : Config) (jetty : Jetty) (producer posted wqebbs : Nat) : Prop where
  idle : jetty.pipe.prefetchInflight = 0
  intact : jetty.pipe.prefetchFailed = false
  free : jetty.pipe.fetching = false
  unordered : jetty.pipe.ordered = false
  window : jetty.pipe.preparedWrites.length < config.writePayloadReadWindow
  outermost : jetty.pipe.dispatching = false
  size : ∀ head, jetty.pipe.cache.find jetty.pipe.issue = some head →
    SqWqe.wqebbCount head = wqebbs
  positive : 0 < wqebbs
  small : wqebbs ≤ config.sqPrefetchWqebbs
  whole : wqebbs ≤ posted
  target : (jetty.pipe.issue + posted) % 2 ^ 32 =
    (jetty.context.mergeProducer producer).targetProducer
  near : jetty.pipe.issue + posted ≤ jetty.context.consumer + jetty.context.depth

/-- The cache holds a part of the descriptor, and `FillSqCache` waits for room for a burst. -/
structure Jetty.Starved (config : Config) (jetty : Jetty) (posted wqebbs : Nat) : Prop where
  started : 0 < jetty.pipe.cache.length
  partly : jetty.pipe.cache.length < wqebbs
  short : config.sqPrefetchWqebbs - jetty.pipe.cache.length < config.sqFetchBurstWqebbs
  plenty : config.sqFetchBurstWqebbs ≤ posted - jetty.pipe.cache.length

instance (config : Config) (jetty : Jetty) (producer posted wqebbs : Nat) :
    Decidable (jetty.Ready config producer posted wqebbs) :=
  decidable_of_iff (jetty.pipe.prefetchInflight = 0 ∧ jetty.pipe.prefetchFailed = false ∧
    jetty.pipe.fetching = false ∧ jetty.pipe.ordered = false ∧
    jetty.pipe.preparedWrites.length < config.writePayloadReadWindow ∧
    jetty.pipe.dispatching = false ∧
    (∀ head ∈ jetty.pipe.cache.find jetty.pipe.issue, SqWqe.wqebbCount head = wqebbs) ∧
    0 < wqebbs ∧ wqebbs ≤ config.sqPrefetchWqebbs ∧ wqebbs ≤ posted ∧
    (jetty.pipe.issue + posted) % 2 ^ 32 =
      (jetty.context.mergeProducer producer).targetProducer ∧
    jetty.pipe.issue + posted ≤ jetty.context.consumer + jetty.context.depth)
    ⟨fun ⟨idle, intact, free, unordered, window, outermost, size, positive, small, whole,
        target, near⟩ => ⟨idle, intact, free, unordered, window, outermost, size, positive,
        small, whole, target, near⟩,
      fun ready => ⟨ready.idle, ready.intact, ready.free, ready.unordered, ready.window,
        ready.outermost, ready.size, ready.positive, ready.small, ready.whole, ready.target,
        ready.near⟩⟩

instance (config : Config) (jetty : Jetty) (posted wqebbs : Nat) :
    Decidable (jetty.Starved config posted wqebbs) :=
  decidable_of_iff (0 < jetty.pipe.cache.length ∧ jetty.pipe.cache.length < wqebbs ∧
    config.sqPrefetchWqebbs - jetty.pipe.cache.length < config.sqFetchBurstWqebbs ∧
    config.sqFetchBurstWqebbs ≤ posted - jetty.pipe.cache.length)
    ⟨fun ⟨started, partly, short, plenty⟩ => ⟨started, partly, short, plenty⟩,
      fun starved => ⟨starved.started, starved.partly, starved.short, starved.plenty⟩⟩

section Hysteresis

variable {config : Config} {id producer posted wqebbs : Nat} {rest : List Task} {jetty : Jetty}
  {state : State}

/-- The Jetty in front of `FillSqCache`. -/
def Jetty.filling (jetty : Jetty) (producer : Nat) (direct : Bytes) : Jetty :=
  ⟨(jetty.context.accept producer direct).mergeProducer producer, some { jetty.pipe with
    kick := false
    dispatching := true
    nextFetch := max jetty.pipe.nextFetch jetty.pipe.issue }⟩

theorem Jetty.filling_starved (jetty : Jetty) (producer : Nat) (direct : Bytes) :
    (jetty.filling producer direct).Starved config posted wqebbs ↔
      jetty.Starved config posted wqebbs :=
  ⟨fun starved => ⟨starved.started, starved.partly, starved.short, starved.plenty⟩,
    fun starved => ⟨starved.started, starved.partly, starved.short, starved.plenty⟩⟩

section Head

variable {target : Nat}
  (keys : jetty.pipe.cache.map Prod.fst = List.range' jetty.pipe.issue jetty.pipe.cache.length)
  (size : ∀ head, jetty.pipe.cache.find jetty.pipe.issue = some head →
    SqWqe.wqebbCount head = wqebbs)
  (small : wqebbs ≤ config.sqPrefetchWqebbs)
  (fits : wqebbs ≤ sub32 target jetty.pipe.issue ∧ wqebbs ≤ jetty.context.depth)

include keys size small fits

/-- All blocks of the head are cached: it is handed over. -/
theorem served_of_cached
    (stands : Stands id rest [.processSqLoop id producer (.fill target)] jetty state)
    (intact : jetty.pipe.prefetchFailed = false)
    (arrived : ∀ entry ∈ jetty.pipe.cache, entry.2 ≠ [])
    (positive : 0 < wqebbs) (cached : wqebbs ≤ jetty.pipe.cache.length) :
    Served config state id jetty.pipe.issue rest := by
  obtain ⟨later, after, within, filled, headed⟩ :=
    stands.fill config.sqFetchMaxOutstanding (Nat.le_add_left _ _)
  obtain ⟨⟨busy, context⟩, added, nextFetch, inflight, _, _, pipe⟩ := filled
  have found : ∀ i < jetty.pipe.cache.length, ∃ block,
      jetty.pipe.cache.find (jetty.pipe.issue + i) = some block ∧ block ≠ [] := by
    intro i inside
    obtain ⟨block, hit⟩ := Cache.find_of_mem (show jetty.pipe.issue + i ∈ _ by
      rw [keys, List.mem_range'_1]
      omega)
    obtain ⟨entry, there, rfl⟩ := Option.map_eq_some_iff.mp hit
    exact ⟨entry.2, hit, arrived entry (List.mem_of_find?_eq_some there)⟩
  have kept : ∀ i < jetty.pipe.cache.length, ∃ block,
      after.pipe.cache.find (jetty.pipe.issue + i) = some block ∧ block ≠ [] := by
    intro i inside
    obtain ⟨block, hit, whole⟩ := found i inside
    refine ⟨block, ?_, whole⟩
    rw [pipe]
    exact Cache.find_append added hit
  have issue : after.pipe.issue = jetty.pipe.issue := by rw [pipe]
  obtain ⟨head, hit, whole⟩ := found 0 (by omega)
  rw [Nat.add_zero] at hit
  have width : SqWqe.wqebbCount head = wqebbs := size head hit
  have first : after.pipe.cache.find after.pipe.issue = some head := by
    rw [pipe]
    exact Cache.find_append added hit
  obtain ⟨blocks, complete⟩ := @Cache.blocks_of_found after.pipe.cache (after.pipe.issue + 1)
    (SqWqe.wqebbCount head - 1) (by
      intro i inside
      rw [issue, Nat.add_assoc, Nat.add_comm 1 i]
      exact kept (i + 1) (by omega))
  have depth : after.context.depth = jetty.context.depth := by
    rw [context]
    rfl
  obtain ⟨next, taken, handed⟩ := headed.hand (by rw [pipe]; exact intact) first whole
    (by rw [issue, depth, width]; exact fits) (by rw [width]; exact small) complete
  rw [issue] at handed
  exact .of_within within ⟨next, .run headed.inside taken (.here _), .inl handed⟩

/-- A block that is missing in front of the loop is missing behind it. -/
theorem lacking_after {after : Jetty} (filled : Filled jetty after)
    (partly : jetty.pipe.cache.length < wqebbs) :
    ∀ head, after.pipe.cache.find after.pipe.issue = some head → head ≠ [] →
      SqWqe.wqebbCount head ≤ sub32 target after.pipe.issue ∧
      SqWqe.wqebbCount head ≤ after.context.depth ∧
      SqWqe.wqebbCount head ≤ config.sqPrefetchWqebbs ∧
      after.pipe.cache.blocks (after.pipe.issue + 1) (SqWqe.wqebbCount head - 1) = none := by
  obtain ⟨⟨busy, context⟩, added, nextFetch, inflight, empty, _, pipe⟩ := filled
  have issue : after.pipe.issue = jetty.pipe.issue := by rw [pipe]
  have depth : after.context.depth = jetty.context.depth := by
    rw [context]
    rfl
  -- Behind the cached blocks only empty ones are found.
  have blank : ∀ position block, jetty.pipe.cache.find position = none →
      after.pipe.cache.find position = some block → block = [] := by
    intro position block missing hit
    rw [pipe] at hit
    obtain ⟨entry, there, rfl⟩ := Option.map_eq_some_iff.mp hit
    rw [List.find?_append] at there
    have none : List.find? (fun entry => entry.1 == position) jetty.pipe.cache = none := by
      simpa [Cache.find] using missing
    rw [none, Option.none_or] at there
    exact empty entry (List.mem_of_find?_eq_some there)
  have outside : jetty.pipe.cache.find (jetty.pipe.issue + jetty.pipe.cache.length) = none := by
    apply Cache.find_eq_none
    rw [keys, List.mem_range'_1]
    omega
  intro head hit whole
  cases cached : jetty.pipe.cache.find jetty.pipe.issue with
  | none => exact absurd (blank _ head cached (issue ▸ hit)) whole
  | some first =>
      have same : head = first := by
        rw [issue, pipe] at hit
        exact Option.some.inj (hit.symm.trans (Cache.find_append added cached))
      have width : SqWqe.wqebbCount head = wqebbs := size head (same ▸ cached)
      have some : 0 < jetty.pipe.cache.length := by
        obtain ⟨entry, there, _⟩ := Option.map_eq_some_iff.mp cached
        exact List.length_pos_of_mem (List.mem_of_find?_eq_some there)
      refine ⟨by rw [width, issue]; exact fits.1, by rw [width, depth]; exact fits.2,
        by rw [width]; exact small, ?_⟩
      refine Cache.blocks_of_missing (show jetty.pipe.cache.length - 1 < _ by omega) ?_
      · intro block found
        apply blank _ block outside
        rw [issue] at found
        have position : jetty.pipe.issue + 1 + (jetty.pipe.cache.length - 1) =
            jetty.pipe.issue + jetty.pipe.cache.length := by omega
        rwa [position] at found

/-- A part of the head is cached: it waits for the rest. -/
theorem waits_served_iff {after : Jetty} {later : State}
    (headed : Stands id rest [.processSqLoop id producer (.head target)] after later)
    (filled : Filled jetty after) (still : jetty.pipe.kick = false)
    (partly : jetty.pipe.cache.length < wqebbs) (position : Nat) :
    Served config later id position rest ↔ after.pipe.prefetchInflight ≠ 0 := by
  obtain ⟨checked, waiting, checking⟩ := @Stands.wait config _ _ _ _ _ _ headed
    (lacking_after keys size small fits filled partly)
  obtain ⟨returned, leaving, back⟩ := @Stands.leave config _ _ _ _ _ checking
    (filled.kick.trans still)
  rw [headed.served_iff (by intro raw same; cases same) waiting,
    checking.served_iff (by intro raw same; cases same) leaving]
  constructor
  · intro served idle
    exact back.not_served idle served
  · intro busy
    exact back.served busy

end Head

/-- What `FillSqCache` makes of the cached part of the head. -/
theorem fill_serves_iff
    (stands : Stands id rest [.processSqLoop id producer
      (.fill ((jetty.pipe.issue + posted) % 2 ^ 32))] jetty state)
    (idle : jetty.pipe.prefetchInflight = 0) (intact : jetty.pipe.prefetchFailed = false)
    (still : jetty.pipe.kick = false)
    (keys : jetty.pipe.cache.map Prod.fst =
      List.range' jetty.pipe.issue jetty.pipe.cache.length)
    (arrived : ∀ entry ∈ jetty.pipe.cache, entry.2 ≠ [])
    (extent : jetty.pipe.nextFetch = jetty.pipe.issue + jetty.pipe.cache.length)
    (size : ∀ head, jetty.pipe.cache.find jetty.pipe.issue = some head →
      SqWqe.wqebbCount head = wqebbs)
    (positive : 0 < wqebbs) (small : wqebbs ≤ config.sqPrefetchWqebbs)
    (whole : wqebbs ≤ posted) (near : posted ≤ jetty.context.depth)
    (target : jetty.context.targetProducer = (jetty.pipe.issue + posted) % 2 ^ 32) :
    Served config state id jetty.pipe.issue rest ↔ ¬ jetty.Starved config posted wqebbs := by
  have shallow := jetty.context.depth_le
  have fits : wqebbs ≤ sub32 ((jetty.pipe.issue + posted) % 2 ^ 32) jetty.pipe.issue ∧
      wqebbs ≤ jetty.context.depth := by
    rw [sub32_add_mod _ _ (by omega)]
    omega
  by_cases cached : wqebbs ≤ jetty.pipe.cache.length
  · constructor
    · intro _ starved
      exact Nat.not_lt.mpr cached starved.partly
    · intro _
      exact served_of_cached keys size small fits stands intact arrived positive cached
  have partly : jetty.pipe.cache.length < wqebbs := Nat.not_le.mp cached
  -- The blocks between the next read and the target.
  have available : sub32 jetty.context.targetProducer jetty.pipe.nextFetch =
      posted - jetty.pipe.cache.length := by
    have same : jetty.pipe.issue + posted =
        jetty.pipe.nextFetch + (posted - jetty.pipe.cache.length) := by omega
    rw [target, same]
    exact sub32_add_mod _ _ (by omega)
  have outstanding := config.fetch_bounds
  by_cases starved : jetty.Starved config posted wqebbs
  · obtain ⟨block, first⟩ := Cache.find_of_mem (show jetty.pipe.issue ∈ _ by
      rw [keys, List.mem_range'_1]
      exact ⟨Nat.le_refl _, Nat.lt_add_of_pos_right starved.started⟩)
    obtain ⟨next, stopping, headed⟩ := @Stands.stop config _ _ _ _ _ _ stands (by
      refine .inr (.inr (.inr (.inr (.inr ⟨starved.short, ?_, ?_⟩))))
      · rw [available]
        exact starved.plenty
      · rw [first]
        rfl)
    rw [stands.served_iff (by intro raw same; cases same) stopping,
      waits_served_iff keys size small fits headed (.refl _) still partly]
    simp [idle, starved]
  · have goes : ¬ Stops config jetty := by
      rintro (failed | full | enough | level | far | ⟨short, plenty, first⟩)
      · simp [intact] at failed
      · omega
      · omega
      · omega
      · omega
      · apply starved
        rw [available] at plenty
        refine ⟨?_, partly, short, plenty⟩
        obtain ⟨block, hit⟩ := Option.isSome_iff_exists.mp first
        obtain ⟨entry, there, _⟩ := Option.map_eq_some_iff.mp hit
        exact List.length_pos_of_mem (List.mem_of_find?_eq_some there)
    obtain ⟨started, bursting, reading⟩ := stands.burst goes
    obtain ⟨resumed, returning, filling⟩ := @Stands.external config _ _ _ _ _ reading
    obtain ⟨later, after, within, further, headed⟩ :=
      filling.fill config.sqFetchMaxOutstanding (Nat.le_add_left _ _)
    have filled := (Filled.bursting config jetty).trans further
    have busy : 0 < after.pipe.prefetchInflight :=
      Nat.lt_of_lt_of_le (Nat.succ_pos _) further.inflight
    have served := (waits_served_iff keys size small fits headed filled still partly
      jetty.pipe.issue).mpr (Nat.ne_of_gt busy)
    refine iff_of_true ?_ starved
    exact .of_within (.run stands.inside bursting (.run reading.inside returning within)) served

/-- The call takes the direct image of the only block, or reaches `FillSqCache`. -/
theorem Jetty.Ready.call {task : Task} {direct : Bytes} (primed : jetty.Primed)
    (ready : jetty.Ready config producer posted wqebbs)
    (called : Stands id rest [task] jetty state)
    (entry : task = .processSq id producer direct ∨
      task = .resumeSq id ∧ producer = jetty.context.targetProducer ∧ direct = []) :
    ∃ next, (∀ position, Served config state id position rest ↔
        Served config next id position rest) ∧
      (posted = 1 ∧ Handed next id jetty.pipe.issue rest ∨
        Stands id rest [.processSqLoop id producer (.fill ((jetty.pipe.issue + posted) % 2 ^ 32))]
          (jetty.filling producer direct) next) := by
  have behind := primed.behind
  have near := ready.near
  have whole := ready.whole
  have positive := ready.positive
  have shallow := jetty.context.depth_le
  -- The target, as the activation sees it.
  have merged := jetty.context.merge_accept producer direct
  rw [← ready.target] at merged
  have total : sub32 ((jetty.pipe.issue + posted) % 2 ^ 32) jetty.context.consumer =
      jetty.pipe.issue - jetty.context.consumer + posted := by
    have same : jetty.pipe.issue + posted =
        jetty.context.consumer + (jetty.pipe.issue - jetty.context.consumer + posted) := by omega
    rw [same]
    exact sub32_add_mod _ _ (by omega)
  have plain : ∀ raw, task ≠ .handleSqWqe id raw := by
    rcases entry with rfl | ⟨rfl, _⟩ <;> intro raw same <;> cases same
  obtain ⟨checked, entering, checking⟩ := @Stands.called config _ _ _ _ _ _ _ entry called
    ready.outermost
  obtain ⟨next, looping, either⟩ := @Stands.once config _ _ _ _ _ checking rfl
    (by simp [SqPipeline.blocked, ready.free, ready.unordered, ready.intact, ready.window])
    (by rw [merged, Jetty.pipe_mk]; dsimp only; omega)
    (by rw [merged, QueueContext.accept_consumer, QueueContext.accept_depth, total]; omega)
  refine ⟨next, ?_, ?_⟩
  · intro position
    rw [called.served_iff plain entering,
      checking.served_iff (by intro raw same; cases same) looping]
  · rw [merged] at either
    rcases either with ⟨level, handed⟩ | filling
    · rw [Jetty.pipe_mk] at level
      dsimp only at level
      exact .inl ⟨by omega, handed⟩
    · exact .inr filling

theorem Jetty.Ready.filling_serves_iff {direct : Bytes} (primed : jetty.Primed)
    (ready : jetty.Ready config producer posted wqebbs)
    (filling : Stands id rest
      [.processSqLoop id producer (.fill ((jetty.pipe.issue + posted) % 2 ^ 32))]
      (jetty.filling producer direct) state) :
    Served config state id jetty.pipe.issue rest ↔ ¬ jetty.Starved config posted wqebbs := by
  have behind := primed.behind
  have near := ready.near
  have merged := jetty.context.merge_accept producer direct
  rw [← ready.target] at merged
  rw [← jetty.filling_starved producer direct]
  refine @fill_serves_iff config id producer posted wqebbs rest (jetty.filling producer direct)
    state filling ready.idle ready.intact rfl primed.keys primed.arrived primed.extent ready.size
    ready.positive ready.small ready.whole ?_ merged
  unfold Jetty.filling
  rw [QueueContext.mergeProducer_depth, QueueContext.accept_depth]
  omega

end Hysteresis

/-- A cache of `room + 1` blocks, read in bursts of three. -/
def Config.narrow (room : Fin 16) : Config :=
  { Config.small false with
    sqPrefetchWqebbs := room + 1
    sqFetchBurstWqebbs := 3
    sqFetchMaxOutstanding := 1
    prefetch_bounds := by omega
    burst_bounds := by decide
    fetch_bounds := by decide }

/-- A WRITE with 160 inline bytes takes four blocks; the first three have arrived. -/
def arriving : List Event :=
  opening 9 3 ++ [.doorbell 9 6] ++ runs 7 ++
    [.fire 0 true (SqWqe.image true 0 0x60 (3 ||| 160 <<< 14) 1 0x8000 ⟨0, 0, 0⟩ ++
      List.replicate 128 0)]

end Udma.Sq
