import Udma.Sq.Lane

/-!
# What each function can do

One inductive predicate for each branching function lists the states it can
produce for an existing Jetty, each with the tests that lead there.  The
invariants are proved over these lists and never unfold a function again.
-/

namespace Udma.Sq

open Udma.Abi Udma.Arithmetic Udma.Collections

/-! ## Issue -/

/-- The first test of `ProcessSqOnce`. -/
def SqPipeline.blocked (config : Config) (pipe : SqPipeline) : Bool :=
  pipe.fetching || pipe.ordered || pipe.prefetchFailed ||
    decide (config.writePayloadReadWindow ≤ pipe.preparedWrites.length)

inductive ProcessOutcome (state : State) (id producer : Nat) (direct : Bytes)
    (jetty : Jetty) (context : QueueContext) : State → Prop where
  | kicked (dispatching : jetty.pipe.dispatching = true) :
      ProcessOutcome state id producer direct jetty context
        (state.setJetty id ⟨context, some { jetty.pipe with kick := true }⟩)
  | entered (idle : jetty.pipe.dispatching = false) :
      ProcessOutcome state id producer direct jetty context
        ((state.setJetty id ⟨context,
          some { jetty.pipe with kick := true, dispatching := true }⟩).push
            [.processSqLoop id producer .check])

/-- The context after the producer and a complete direct image are merged. -/
def QueueContext.accept (context : QueueContext) (producer : Nat) (direct : Bytes) :
    QueueContext :=
  if direct.length = wqebbBytes then
    { context.mergeProducer producer with directWqe := direct, directPending := true }
  else context.mergeProducer producer

theorem processSq_outcome {state : State} {id : Nat} {jetty : Jetty}
    (existing : state.jetty id = some jetty) (producer : Nat) (direct : Bytes) :
    ProcessOutcome state id producer direct jetty (jetty.context.accept producer direct)
      (processSq state id producer direct) := by
  simp only [processSq, existing]
  split
  next dispatching => exact .kicked dispatching
  next idle => exact .entered (by simpa using idle)

/-- One iteration of the loop of `ProcessSq`, up to `FillSqCache`. -/
inductive LoopOutcome (config : Config) (state : State) (id producer : Nat)
    (jetty : Jetty) : State → Prop where
  | left (quiet : jetty.pipe.kick = false) :
      LoopOutcome config state id producer jetty
        (state.setJetty id ⟨jetty.context,
          some { jetty.pipe with dispatching := false }⟩)
  | blocked (stopped : jetty.pipe.blocked config = true) :
      LoopOutcome config state id producer jetty
        ((state.setJetty id ⟨jetty.context.mergeProducer producer,
          some { jetty.pipe with kick := false }⟩).push [.processSqLoop id producer .check])
  | caughtUp (clear : jetty.pipe.blocked config = false)
      (level : jetty.pipe.issue % 2 ^ 32 =
        (jetty.context.mergeProducer producer).targetProducer) :
      LoopOutcome config state id producer jetty
        ((state.setJetty id
          ⟨{ jetty.context.mergeProducer producer with directPending := false },
            some { jetty.pipe with kick := false }⟩).push
              [.processSqLoop id producer .check])
  | tooFar (clear : jetty.pipe.blocked config = false)
      (far : jetty.context.depth <
        sub32 (jetty.context.mergeProducer producer).targetProducer jetty.context.consumer) :
      LoopOutcome config state id producer jetty
        ((state.setJetty id ⟨jetty.context.mergeProducer producer,
          some { jetty.pipe with kick := false }⟩).push [.processSqLoop id producer .check])
  | direct (clear : jetty.pipe.blocked config = false)
      (near : sub32 (jetty.context.mergeProducer producer).targetProducer
        jetty.context.consumer ≤ jetty.context.depth)
      (pending : (jetty.context.mergeProducer producer).directPending = true)
      (level : (jetty.pipe.issue + 1) % 2 ^ 32 =
        (jetty.context.mergeProducer producer).targetProducer) :
      LoopOutcome config state id producer jetty
        ((state.setJetty id
          ⟨{ jetty.context.mergeProducer producer with busy := true, directPending := false },
            some { jetty.pipe with kick := false, fetching := true }⟩).push
              [.handleSqWqe id (jetty.context.mergeProducer producer).directWqe,
                .processSqLoop id producer .check])
  | filling (clear : jetty.pipe.blocked config = false)
      (behind : jetty.pipe.issue % 2 ^ 32 ≠
        (jetty.context.mergeProducer producer).targetProducer)
      (near : sub32 (jetty.context.mergeProducer producer).targetProducer
        jetty.context.consumer ≤ jetty.context.depth) :
      LoopOutcome config state id producer jetty
        ((state.setJetty id ⟨jetty.context.mergeProducer producer,
          some { jetty.pipe with
            kick := false, nextFetch := max jetty.pipe.nextFetch jetty.pipe.issue }⟩).push
              [.processSqLoop id producer
                (.fill (jetty.context.mergeProducer producer).targetProducer)])

@[simp] theorem State.setJetty_setJetty (state : State) (id : Nat) (first second : Jetty) :
    (state.setJetty id first).setJetty id second = state.setJetty id second := by
  simp only [State.setJetty, State.mk.injEq, and_true]
  funext other
  split <;> rfl

theorem QueueContext.depth_pos (context : QueueContext) : 0 < context.depth := by
  simp only [depth, Nat.shiftLeft_eq, Nat.one_mul]
  exact Nat.two_pow_pos _

@[simp] theorem QueueContext.mergeProducer_depth (context : QueueContext) (producer : Nat) :
    (context.mergeProducer producer).depth = context.depth := by
  unfold mergeProducer depth
  split <;> rfl

@[simp] theorem QueueContext.mergeProducer_consumer (context : QueueContext)
    (producer : Nat) : (context.mergeProducer producer).consumer = context.consumer := by
  unfold mergeProducer
  split <;> rfl

theorem processSqLoop_outcome (config : Config) {state : State} {id : Nat} {jetty : Jetty}
    (existing : state.jetty id = some jetty) (producer : Nat) :
    LoopOutcome config state id producer jetty (processSqLoop config state id producer) := by
  have found : ∀ next, (state.setJetty id next).jetty id = some next := by
    simp [State.setJetty]
  simp only [processSqLoop, existing]
  split
  next kick =>
    have present : (jetty.context.mergeProducer producer).depth ≠ 0 := by
      simpa using Nat.ne_of_gt jetty.context.depth_pos
    simp only [processSqOnce, found, Jetty.pipe_mk, State.setJetty_setJetty, present,
      false_or]
    split
    next stopped => exact .blocked stopped
    next clear =>
      replace clear : jetty.pipe.blocked config = false := Bool.eq_false_iff.mpr clear
      split
      next level => exact .caughtUp clear level
      next behind =>
        split
        next far => exact .tooFar clear (by simpa using far)
        next near =>
          replace near : sub32 (jetty.context.mergeProducer producer).targetProducer
              jetty.context.consumer ≤ jetty.context.depth := by
            simpa using near
          split
          next ready => exact .direct clear near ready.1 ready.2
          next notDirect => exact .filling clear behind near
  next quiet => exact .left (by simpa using quiet)

inductive FillOutcome (config : Config) (state : State) (id producer targetProducer : Nat)
    (jetty : Jetty) : State → Prop where
  | limited (reason : jetty.pipe.prefetchFailed = true ∨
        config.sqFetchMaxOutstanding ≤ jetty.pipe.prefetchInflight ∨
        config.sqPrefetchWqebbs ≤ jetty.pipe.cache.length) :
      FillOutcome config state id producer targetProducer jetty
        (state.push [.processSqLoop id producer (.head targetProducer)])
  | unavailable
      (reason : sub32 jetty.context.targetProducer jetty.pipe.nextFetch = 0 ∨
        jetty.context.depth < sub32 jetty.context.targetProducer jetty.pipe.nextFetch) :
      FillOutcome config state id producer targetProducer jetty
        (state.push [.processSqLoop id producer (.head targetProducer)])
  | held (short : config.sqPrefetchWqebbs - jetty.pipe.cache.length <
        config.sqFetchBurstWqebbs)
      (plenty : config.sqFetchBurstWqebbs ≤
        sub32 jetty.context.targetProducer jetty.pipe.nextFetch)
      (cached : (jetty.pipe.cache.find jetty.pipe.issue).isSome = true) :
      FillOutcome config state id producer targetProducer jetty
        (state.push [.processSqLoop id producer (.head targetProducer)])
  | fetched (sound : jetty.pipe.prefetchFailed = false)
      (room : jetty.pipe.cache.length < config.sqPrefetchWqebbs)
      (posted : sub32 jetty.context.targetProducer jetty.pipe.nextFetch ≠ 0)
      (near : sub32 jetty.context.targetProducer jetty.pipe.nextFetch ≤ jetty.context.depth) :
      FillOutcome config state id producer targetProducer jetty
        ((((state.setJetty id ⟨{ jetty.context with busy := true }, some { jetty.pipe with
            cache := jetty.pipe.cache ++
              (List.range (prefetchCount config jetty.context jetty.pipe)).map
                fun i => (jetty.pipe.nextFetch + i, [])
            nextFetch := jetty.pipe.nextFetch + prefetchCount config jetty.context jetty.pipe
            prefetchInflight := jetty.pipe.prefetchInflight + 1 }⟩).emit
          [.dmaRead id jetty.context.token
            (jetty.context.queueIova +
              (jetty.pipe.nextFetch &&& (jetty.context.depth - 1)) * wqebbBytes)
            (prefetchCount config jetty.context jetty.pipe * wqebbBytes)]).push
            [.processSqLoop id producer (.fill targetProducer)]).call
              (.prefetch id jetty.pipe.nextFetch
                (prefetchCount config jetty.context jetty.pipe)))

theorem fillSqCache_outcome (config : Config) {state : State} {id : Nat} {jetty : Jetty}
    (existing : state.jetty id = some jetty) (producer targetProducer : Nat) :
    FillOutcome config state id producer targetProducer jetty
      (fillSqCache config state id producer targetProducer) := by
  simp only [fillSqCache, existing]
  split
  next reason => exact .limited reason
  next admissible =>
    split
    next reason => exact .unavailable reason
    next available =>
      split
      next held => exact .held held.1 held.2.1 held.2.2
      next notHeld =>
        simp only [not_or, Nat.not_le, Bool.not_eq_true] at admissible available
        exact .fetched admissible.1 admissible.2.2 available.1 (by omega)

inductive HeadOutcome (config : Config) (state : State) (id producer targetProducer : Nat)
    (jetty : Jetty) : State → Prop where
  | failed (broken : jetty.pipe.prefetchFailed = true) :
      HeadOutcome config state id producer targetProducer jetty
        (state.push [.processSqLoop id producer .check])
  | absent (missing : jetty.pipe.cache.find jetty.pipe.issue = none ∨
        jetty.pipe.cache.find jetty.pipe.issue = some []) :
      HeadOutcome config state id producer targetProducer jetty
        (state.push [.processSqLoop id producer .check])
  | malformed (head : Bytes) (cached : jetty.pipe.cache.find jetty.pipe.issue = some head)
      (arrived : head ≠ [])
      (misfit : sub32 targetProducer jetty.pipe.issue < SqWqe.wqebbCount head ∨
        jetty.context.depth < SqWqe.wqebbCount head) :
      HeadOutcome config state id producer targetProducer jetty
        ((state.setJetty id ⟨jetty.context,
          some { jetty.pipe with prefetchFailed := true }⟩).push
            [.processSqLoop id producer .check])
  | incomplete (head : Bytes) (cached : jetty.pipe.cache.find jetty.pipe.issue = some head)
      (arrived : head ≠ [])
      (fits : SqWqe.wqebbCount head ≤ sub32 targetProducer jetty.pipe.issue ∧
        SqWqe.wqebbCount head ≤ jetty.context.depth)
      (small : SqWqe.wqebbCount head ≤ config.sqPrefetchWqebbs)
      (missing : jetty.pipe.cache.blocks (jetty.pipe.issue + 1)
        (SqWqe.wqebbCount head - 1) = none) :
      HeadOutcome config state id producer targetProducer jetty
        (state.push [.processSqLoop id producer .check])
  | handed (head rest : Bytes) (sound : jetty.pipe.prefetchFailed = false)
      (cached : jetty.pipe.cache.find jetty.pipe.issue = some head)
      (arrived : head ≠ [])
      (fits : SqWqe.wqebbCount head ≤ sub32 targetProducer jetty.pipe.issue ∧
        SqWqe.wqebbCount head ≤ jetty.context.depth)
      (complete : jetty.pipe.cache.blocks (jetty.pipe.issue + 1)
        (SqWqe.wqebbCount head - 1) = some rest) :
      HeadOutcome config state id producer targetProducer jetty
        ((state.setJetty id ⟨{ jetty.context with busy := true },
          some { jetty.pipe with fetching := true }⟩).push
            [.handleSqWqe id (head ++ rest), .processSqLoop id producer .check])
  | oversized (head : Bytes) (sound : jetty.pipe.prefetchFailed = false)
      (cached : jetty.pipe.cache.find jetty.pipe.issue = some head)
      (arrived : head ≠ [])
      (fits : SqWqe.wqebbCount head ≤ sub32 targetProducer jetty.pipe.issue ∧
        SqWqe.wqebbCount head ≤ jetty.context.depth)
      (large : config.sqPrefetchWqebbs < SqWqe.wqebbCount head) :
      HeadOutcome config state id producer targetProducer jetty
        ((state.setJetty id ⟨{ jetty.context with busy := true },
          some { jetty.pipe with fetching := true }⟩).push
            [.continueSqWqe id head (SqWqe.wqebbCount head - 1)
              ((jetty.pipe.issue + 1) &&& (jetty.context.depth - 1)),
              .processSqLoop id producer .check])

theorem executeSqHead_outcome (config : Config) {state : State} {id : Nat} {jetty : Jetty}
    (existing : state.jetty id = some jetty) (producer targetProducer : Nat) :
    HeadOutcome config state id producer targetProducer jetty
      (executeSqHead config state id producer targetProducer) := by
  simp only [executeSqHead, existing]
  split
  next broken => exact .failed broken
  next sound =>
    replace sound : jetty.pipe.prefetchFailed = false := by simpa using sound
    split
    next missing => exact .absent (.inl missing)
    next head cached =>
      split
      next empty =>
        rw [List.isEmpty_iff] at empty
        exact .absent (.inr (empty ▸ cached))
      next nonempty =>
        have arrived : head ≠ [] := by simpa using nonempty
        split
        next misfit =>
          exact .malformed head cached arrived
            (misfit.resolve_left (Nat.ne_of_gt (SqWqe.wqebbCount_pos head)))
        next fits =>
          simp only [not_or, Nat.not_lt] at fits
          split
          next small =>
            split
            next missing => exact .incomplete head cached arrived fits.2 small missing
            next rest complete => exact .handed head rest sound cached arrived fits.2 complete
          next large =>
            exact .oversized head sound cached arrived fits.2 (by omega)

/-! ## Execution of one descriptor -/

/-- The request a fresh descriptor at the head of the Jetty stands for. -/
def Jetty.requestFor (jetty : Jetty) (raw : Bytes) (byteCount : Nat) : SqRequest :=
  SqRequest.ofWqe raw jetty.pipe.issue jetty.context.depth byteCount

/-- The tests of `HandleSqWqe` that a descriptor has passed before it is issued. -/
structure Admitted (config : Config) (state : State) (jetty : Jetty) (raw : Bytes)
    (route : TpRoute) : Prop where
  long : wqebbBytes ≤ raw.length
  header : headerValid raw jetty.pipe.issue jetty.context.depth = true
  sound : jetty.pipe.prefetchFailed = false
  inTurn : jetty.pipe.preparedWrites = [] ∨
    (SqWqe.opcode raw = 3 ∧ SqWqe.inlinePayload raw = false)
  fenced : SqWqe.ordered raw = true → jetty.pipe.completions = []
  found : findRoute state.tpRoutes (SqWqe.tpn raw) = some route
  up : routeUp state.linkUp route = true

/-- No reply to the request has arrived. -/
structure PendingRma.Untouched (pending : PendingRma) : Prop where
  completedBytes : pending.completedBytes = 0
  completedTassns : pending.completedTassns = []
  responseDma : pending.responseDma = 0
  acceptedBytes : pending.acceptedBytes = 0
  failed : pending.failed = false
  responseRanges : pending.responseRanges = []

inductive HandleOutcome (config : Config) (state : State) (id : Nat) (raw : Bytes)
    (jetty : Jetty) : State → Prop where
  | failed :
      HandleOutcome config state id raw jetty (state.setJetty id jetty.fail)
  | released (reason : jetty.pipe.prefetchFailed = true ∨ jetty.pipe.preparedWrites ≠ [] ∨
        jetty.pipe.completions ≠ [] ∨ readWindowFull config state raw = true) :
      HandleOutcome config state id raw jetty (state.setJetty id jetty.release)
  | read (route : TpRoute) (frame : Frame) (pending : PendingRma)
      (admitted : Admitted config state jetty raw route)
      (opcode : SqWqe.opcode raw = 6)
      (tpn : frame.tpn = SqWqe.tpn raw)
      (port : frame.sourcePort = route.port % 2 ^ 16)
      (owner : pending.jettyId = id)
      (number : pending.requestId = state.nextRmaRequest)
      (request : pending.request = jetty.requestFor raw (SqWqe.firstSge raw).length)
      (untouched : pending.Untouched)
      (operation : frame.operation = .readRequest) :
      HandleOutcome config state id raw jetty
        ((((reserveSq state id jetty jetty.pipe
            (jetty.requestFor raw (SqWqe.firstSge raw).length)).addPending pending).push
          [.releaseSqFetch id]).send id jetty.pipe.issue frame
            (.readSent state.nextRmaRequest))
  | prepared (route : TpRoute) (admitted : Admitted config state jetty raw route)
      (opcode : SqWqe.opcode raw = 3) :
      HandleOutcome config state id raw jetty (prepareWrite state id jetty raw)
  | rejected (route : TpRoute) (length : Nat)
      (admitted : Admitted config state jetty raw route)
      (opcode : SqWqe.opcode raw ≠ 3) :
      HandleOutcome config state id raw jetty (rejectSend state id jetty raw length)
  | inlined (route : TpRoute) (payload : Bytes)
      (admitted : Admitted config state jetty raw route)
      (alone : jetty.pipe.preparedWrites = [])
      (notRead : SqWqe.opcode raw ≠ 6) :
      HandleOutcome config state id raw jetty
        (state.push [.submitSqPayload id raw payload none])
  | reading (route : TpRoute) (observation : Observation) (expected : Nat)
      (admitted : Admitted config state jetty raw route)
      (alone : jetty.pipe.preparedWrites = [])
      (observed : observation = .dmaRead id jetty.context.payloadToken
        (SqWqe.firstSge raw).address (SqWqe.firstSge raw).length)
      (notRead : SqWqe.opcode raw ≠ 6) :
      HandleOutcome config state id raw jetty
        ((state.emit [observation]).call (.sendPayload id raw expected))

theorem Admitted.alone {config : Config} {state : State} {jetty : Jetty} {raw : Bytes}
    {route : TpRoute} (admitted : Admitted config state jetty raw route)
    (other : SqWqe.opcode raw ≠ 3 ∨ SqWqe.inlinePayload raw = true) :
    jetty.pipe.preparedWrites = [] := by
  rcases admitted.inTurn with alone | ⟨write, plain⟩
  · exact alone
  · rcases other with different | inlined
    · exact absurd write different
    · simp [inlined] at plain

theorem issueWqe_outcome {config : Config} {state : State} {id : Nat} {jetty : Jetty}
    {raw : Bytes} {route : TpRoute} (admitted : Admitted config state jetty raw route) :
    HandleOutcome config state id raw jetty (issueWqe config state id jetty route raw) := by
  unfold issueWqe
  dsimp only
  split
  next opcode =>
    unfold issueRead
    dsimp only
    split
    · exact .failed
    · split
      · exact .failed
      · exact .read route _ _ admitted opcode rfl rfl rfl rfl rfl
          ⟨rfl, rfl, rfl, rfl, rfl, rfl⟩ rfl
  next notRead =>
    split
    next tooLong =>
      refine .rejected route _ admitted ?_
      rcases tooLong.1 with send | immediate <;> omega
    next inLimits =>
      split
      next inlined =>
        split
        · exact .failed
        · exact .inlined route _ admitted (admitted.alone (.inr inlined)) notRead
      next plain =>
        split
        · exact .failed
        · split
          · exact .failed
          · split
            next write => exact .prepared route admitted write
            next send =>
              exact .reading route _ _ admitted (admitted.alone (.inl send)) rfl notRead

theorem handleSqWqe_outcome (config : Config) {state : State} {id : Nat} {jetty : Jetty}
    (existing : state.jetty id = some jetty) (raw : Bytes) :
    HandleOutcome config (state.emit [.executed id jetty.pipe.issue raw]) id raw jetty
      (handleSqWqe config state id raw) := by
  simp only [handleSqWqe, existing]
  split
  next short => exact .failed
  next long =>
    split
    next broken => exact .released (.inl broken)
    next sound =>
      split
      next invalid => exact .failed
      next header =>
        split
        next waiting => exact .released (.inr (.inl waiting.1))
        next turn =>
          split
          next fenced => exact .released (.inr (.inr (.inl fenced.2)))
          next unfenced =>
            split
            next full => exact .released (.inr (.inr (.inr full)))
            next admissible =>
              split
              next missing => exact .failed
              next route found =>
                split
                next up =>
                  refine issueWqe_outcome ⟨by omega, ?_, ?_, ?_, ?_, found, up⟩
                  · simpa using header
                  · simpa using sound
                  · by_cases empty : jetty.pipe.preparedWrites = []
                    · exact .inl empty
                    · right
                      simpa [empty] using turn
                  · intro ordered
                    simpa [ordered] using unfenced
                next down => exact .failed

/-- The request of a drained WRITE keeps the place of its entry. -/
def Jetty.requestHeld (jetty : Jetty) (raw : Bytes) (byteCount : Nat) (held : SqRequest) :
    SqRequest :=
  { jetty.requestFor raw byteCount with
    position := held.position, completedIndex := held.completedIndex }

inductive SubmitOutcome (config : Config) (state : State) (id : Nat) (raw payload : Bytes)
    (jetty : Jetty) : Option SqRequest → State → Prop where
  | released (broken : jetty.pipe.prefetchFailed = true) :
      SubmitOutcome config state id raw payload jetty none (state.setJetty id jetty.release)
  | lost (reserved : Option SqRequest)
      (reason : raw.length < wqebbBytes ∨ findRoute state.tpRoutes (SqWqe.tpn raw) = none) :
      SubmitOutcome config state id raw payload jetty reserved state
  | freshSend (route : TpRoute) (frame : Frame) (opcode : SqWqe.opcode raw ≠ 3)
      (sound : jetty.pipe.prefetchFailed = false)
      (found : findRoute state.tpRoutes (SqWqe.tpn raw) = some route)
      (tpn : frame.tpn = SqWqe.tpn raw)
      (port : frame.sourcePort = route.port % 2 ^ 16)
      (operation : frame.operation = payloadOperation raw) :
      SubmitOutcome config state id raw payload jetty none
        (((reserveSq state id jetty jetty.pipe (jetty.requestFor raw payload.length)).push
          [.releaseSqFetch id]).send id jetty.pipe.issue frame
            (.payloadSent id (jetty.requestFor raw payload.length) 0))
  | freshWrite (route : TpRoute) (frame : Frame) (pending : PendingRma)
      (opcode : SqWqe.opcode raw = 3)
      (sound : jetty.pipe.prefetchFailed = false)
      (found : findRoute state.tpRoutes (SqWqe.tpn raw) = some route)
      (tpn : frame.tpn = SqWqe.tpn raw)
      (port : frame.sourcePort = route.port % 2 ^ 16)
      (owner : pending.jettyId = id)
      (number : pending.requestId = state.nextRmaRequest)
      (request : pending.request = jetty.requestFor raw payload.length)
      (untouched : pending.Untouched)
      (carried : frame.transferLength = frame.bytes.length) :
      SubmitOutcome config state id raw payload jetty none
        ((((reserveSq state id jetty jetty.pipe (jetty.requestFor raw payload.length)).push
          [.releaseSqFetch id]).addPending pending).send id jetty.pipe.issue frame
            (.payloadSent id (jetty.requestFor raw payload.length) state.nextRmaRequest))
  | heldSend (held : SqRequest) (route : TpRoute) (frame : Frame)
      (opcode : SqWqe.opcode raw ≠ 3)
      (found : findRoute state.tpRoutes (SqWqe.tpn raw) = some route)
      (tpn : frame.tpn = SqWqe.tpn raw)
      (port : frame.sourcePort = route.port % 2 ^ 16)
      (operation : frame.operation = payloadOperation raw) :
      SubmitOutcome config state id raw payload jetty (some held)
        (state.send id held.position frame
          (.payloadSent id (jetty.requestHeld raw payload.length held) 0))
  | heldWrite (held : SqRequest) (route : TpRoute) (frame : Frame) (pending : PendingRma)
      (opcode : SqWqe.opcode raw = 3)
      (found : findRoute state.tpRoutes (SqWqe.tpn raw) = some route)
      (tpn : frame.tpn = SqWqe.tpn raw)
      (port : frame.sourcePort = route.port % 2 ^ 16)
      (owner : pending.jettyId = id)
      (number : pending.requestId = state.nextRmaRequest)
      (request : pending.request = jetty.requestHeld raw payload.length held)
      (untouched : pending.Untouched)
      (carried : frame.transferLength = frame.bytes.length) :
      SubmitOutcome config state id raw payload jetty (some held)
        ((state.addPending pending).send id held.position frame
          (.payloadSent id (jetty.requestHeld raw payload.length held) state.nextRmaRequest))

theorem submitSqPayload_outcome (config : Config) {state : State} {id : Nat} {jetty : Jetty}
    (existing : state.jetty id = some jetty) (raw payload : Bytes)
    (reserved : Option SqRequest) :
    SubmitOutcome config state id raw payload jetty reserved
      (submitSqPayload config state id raw payload reserved) := by
  simp only [submitSqPayload, existing]
  split
  next broken =>
    obtain ⟨fresh, broken⟩ := broken
    rw [Option.isNone_iff_eq_none] at fresh
    subst fresh
    exact .released broken
  next proceed =>
    split
    next short => exact .lost _ (.inl short)
    next long =>
      split
      next missing => exact .lost _ (.inr missing)
      next route found =>
        cases reserved with
        | none =>
            have sound : jetty.pipe.prefetchFailed = false := by simpa using proceed
            by_cases write : SqWqe.opcode raw = 3
            · simp only [write, decide_true, ↓reduceIte, Option.isNone_none]
              exact .freshWrite route _ _ write sound found rfl rfl rfl rfl rfl
                ⟨rfl, rfl, rfl, rfl, rfl, rfl⟩ rfl
            · simp only [write, decide_false, Bool.false_eq_true, ↓reduceIte,
                Option.isNone_none]
              exact .freshSend route _ write sound found rfl rfl rfl
        | some held =>
            by_cases write : SqWqe.opcode raw = 3
            · simp only [write, decide_true, ↓reduceIte, Option.isNone_some,
                Bool.false_eq_true]
              exact .heldWrite held route _ _ write found rfl rfl rfl rfl rfl
                ⟨rfl, rfl, rfl, rfl, rfl, rfl⟩ rfl
            · simp only [write, decide_false, Bool.false_eq_true, ↓reduceIte,
                Option.isNone_some]
              exact .heldSend held route _ write found rfl rfl rfl

inductive DrainOutcome (state : State) (id : Nat) (jetty : Jetty) : State → Prop where
  | resumed (stalled : ∀ front ∈ jetty.pipe.preparedWrites.head?, front.ready = false) :
      DrainOutcome state id jetty
        (state.push [.processSq id jetty.context.targetProducer []])
  | failed (front : PreparedWrite) (rest : List PreparedWrite)
      (queue : jetty.pipe.preparedWrites = front :: rest)
      (ready : front.ready = true) (broken : front.failed = true) :
      DrainOutcome state id jetty
        ((state.setJetty id ⟨jetty.context, some { jetty.pipe with preparedWrites := rest }⟩).push
          [.completeSq id front.request 2 0, .drainPreparedWrites id])
  | submitted (front : PreparedWrite) (rest : List PreparedWrite)
      (queue : jetty.pipe.preparedWrites = front :: rest)
      (ready : front.ready = true) (intact : front.failed = false) :
      DrainOutcome state id jetty
        ((state.setJetty id ⟨jetty.context, some { jetty.pipe with preparedWrites := rest }⟩).push
          [.submitSqPayload id front.raw front.payload (some front.request),
            .drainPreparedWrites id])

theorem drainPreparedWrites_outcome {state : State} {id : Nat} {jetty : Jetty}
    (existing : state.jetty id = some jetty) :
    DrainOutcome state id jetty (drainPreparedWrites state id) := by
  simp only [drainPreparedWrites, existing]
  split
  next empty => exact .resumed (by simp [empty])
  next front rest queue =>
    split
    next ready =>
      split
      next broken => exact .failed front rest queue ready broken
      next intact => exact .submitted front rest queue ready (by simpa using intact)
    next waiting => exact .resumed (by simpa [queue] using waiting)

/-! ## Completion and retirement -/

/-- The search of `CompleteSq`. -/
def SqRequest.names (request : SqRequest) (entry : SqCompletion) : Bool :=
  entry.index == request.completedIndex

inductive CompleteOutcome (state : State) (id : Nat) (request : SqRequest)
    (status substatus : Nat) (jetty : Jetty) : State → Prop where
  | ignored (reason : ∀ entry ∈ jetty.pipe.completions.find? request.names,
        entry.ready = true ∨ entry.wqebbs ≠ request.wqebbs) :
      CompleteOutcome state id request status substatus jetty state
  | marked (entry : SqCompletion)
      (found : jetty.pipe.completions.find? request.names = some entry)
      (waiting : entry.ready = false) (size : entry.wqebbs = request.wqebbs) :
      CompleteOutcome state id request status substatus jetty
        ((state.setJetty id ⟨jetty.context, some { jetty.pipe with
          completions := markFirst request.names
            (fun found => found.complete request status substatus)
            jetty.pipe.completions }⟩).push [.retireSq id])

theorem completeSq_outcome {state : State} {id : Nat} {jetty : Jetty}
    (existing : state.jetty id = some jetty) (request : SqRequest) (status substatus : Nat) :
    CompleteOutcome (state.emit [.completed id request status substatus]) id request
      status substatus jetty (completeSq state id request status substatus) := by
  simp only [completeSq, existing]
  split
  next missing =>
    change jetty.pipe.completions.find? request.names = none at missing
    exact .ignored (by simp [missing])
  next entry found =>
    change jetty.pipe.completions.find? request.names = some entry at found
    split
    next refused => exact .ignored (by simpa [found] using refused)
    next accepted =>
      simp only [not_or, Bool.not_eq_true, Decidable.not_not] at accepted
      exact .marked entry found accepted.1 accepted.2

/-- The loop that retirement runs in the configured mode. -/
def retireLoop (config : Config) (id : Nat) : Task :=
  if config.pipelinedCompletionDma then .retireSqPipelinedLoop id else .retireSqLoop id

inductive RetireOutcome (config : Config) (state : State) (id : Nat) (jetty : Jetty) :
    State → Prop where
  | skipped (reason : jetty.pipe.retiring = true ∨
        (config.pipelinedCompletionDma = true ∧ jetty.pipe.publicationFailed = true)) :
      RetireOutcome config state id jetty state
  | entered (idle : jetty.pipe.retiring = false) :
      RetireOutcome config state id jetty
        ((state.setJetty id ⟨jetty.context, some { jetty.pipe with retiring := true }⟩).push
          [retireLoop config id])

theorem retireSq_outcome (config : Config) {state : State} {id : Nat} {jetty : Jetty}
    (existing : state.jetty id = some jetty) :
    RetireOutcome config state id jetty (retireSq config state id) := by
  simp only [retireSq, existing]
  split
  next pipelined =>
    have loop : Task.retireSqPipelinedLoop id = retireLoop config id := by
      simp [retireLoop, pipelined]
    split
    next reason => exact .skipped (reason.imp_right fun failed => ⟨pipelined, failed⟩)
    next proceed =>
      simp only [not_or, Bool.not_eq_true] at proceed
      rw [loop]
      exact .entered proceed.1
  next serial =>
    have loop : Task.retireSqLoop id = retireLoop config id := by
      simp [retireLoop, serial]
    split
    next busy => exact .skipped (.inl busy)
    next idle =>
      rw [loop]
      exact .entered (by simpa using idle)

inductive RetireLoopOutcome (state : State) (id : Nat) (jetty : Jetty) : State → Prop where
  | stopped (reason : jetty.pipe.publishing = true ∨
        ∀ front ∈ jetty.pipe.completions.head?, front.ready = false) :
      RetireLoopOutcome state id jetty
        (state.setJetty id ⟨jetty.context, some { jetty.pipe with retiring := false }⟩)
  | published (front : SqCompletion) (rest : List SqCompletion)
      (queue : jetty.pipe.completions = front :: rest)
      (idle : jetty.pipe.publishing = false) (ready : front.ready = true) :
      RetireLoopOutcome state id jetty
        (publishSq (state.setJetty id
            ⟨jetty.context, some { jetty.pipe with publishing := true }⟩)
          id jetty.context front (.finishSq id front true) (.retireSqLoop id))

theorem retireSqLoop_outcome {state : State} {id : Nat} {jetty : Jetty}
    (existing : state.jetty id = some jetty) :
    RetireLoopOutcome state id jetty (retireSqLoop state id) := by
  simp only [retireSqLoop, existing]
  split
  next empty => exact .stopped (.inr (by simp [empty]))
  next front rest queue =>
    split
    next proceed =>
      simp only [Bool.and_eq_true, Bool.not_eq_true'] at proceed
      exact .published front rest queue proceed.1 proceed.2
    next halted =>
      refine .stopped ?_
      cases publishing : jetty.pipe.publishing with
      | true => exact .inl rfl
      | false =>
          right
          simpa [publishing, queue] using halted

/-- The scan of `RetireSqPipelined` passes entries that are being published. -/
def SqCompletion.unstarted (entry : SqCompletion) : Bool :=
  !(entry.ready && entry.publicationStarted)

/-- An entry whose publication begins. -/
def SqCompletion.start (entry : SqCompletion) : SqCompletion :=
  { entry with publicationStarted := true }

inductive RetirePipelinedOutcome (config : Config) (state : State) (id : Nat)
    (jetty : Jetty) : State → Prop where
  | stopped (reason : jetty.pipe.publicationFailed = true ∨
        config.completionEventSlots ≤ jetty.pipe.publicationsInFlight ∨
        ∀ next ∈ jetty.pipe.completions.find? SqCompletion.unstarted, next.ready = false) :
      RetirePipelinedOutcome config state id jetty
        (state.setJetty id ⟨jetty.context, some { jetty.pipe with retiring := false }⟩)
  | published (next : SqCompletion)
      (found : jetty.pipe.completions.find? SqCompletion.unstarted = some next)
      (ready : next.ready = true) :
      RetirePipelinedOutcome config state id jetty
        (publishSq (state.setJetty id ⟨jetty.context, some { jetty.pipe with
            completions := markFirst SqCompletion.unstarted SqCompletion.start
              jetty.pipe.completions
            publicationsInFlight := jetty.pipe.publicationsInFlight + 1
            publishing := true }⟩)
          id jetty.context next.start (.finishSqPipelined id next.start true)
          (.retireSqPipelinedLoop id))

theorem retireSqPipelinedLoop_outcome (config : Config) {state : State} {id : Nat}
    {jetty : Jetty} (existing : state.jetty id = some jetty) :
    RetirePipelinedOutcome config state id jetty (retireSqPipelinedLoop config state id) := by
  simp only [retireSqPipelinedLoop, existing]
  split
  next reason => exact .stopped (reason.imp_right .inl)
  next proceed =>
    split
    next none_ =>
      refine .stopped (.inr (.inr ?_))
      change jetty.pipe.completions.find? SqCompletion.unstarted = none at none_
      simp [none_]
    next next found =>
      split
      next ready => exact .published next found ready
      next waiting =>
        refine .stopped (.inr (.inr ?_))
        change jetty.pipe.completions.find? SqCompletion.unstarted = some next at found
        simpa [found] using waiting

/-- The pipeline after an entry has reported that its CQE is written. -/
def SqPipeline.retire (pipe : SqPipeline) (marked : List SqCompletion) : SqPipeline :=
  { pipe with
    publicationsInFlight := pipe.publicationsInFlight - 1
    completions := marked.dropWhile (·.publicationDone)
    publishing := decide (pipe.publicationsInFlight - 1 ≠ 0)
    ordered := pipe.ordered && !(marked.dropWhile (·.publicationDone)).isEmpty }

/-- The search of the `finish` closure of `RetireSqPipelined`. -/
def SqCompletion.sameIndex (entry candidate : SqCompletion) : Bool :=
  candidate.index == entry.index

def SqCompletion.finish (entry : SqCompletion) : SqCompletion :=
  { entry with publicationDone := true }

inductive FinishPipelinedOutcome (state : State) (id : Nat) (entry : SqCompletion)
    (ok : Bool) (jetty : Jetty) : State → Prop where
  | broken (reason : ok = false ∨
        ∀ current ∈ jetty.pipe.completions.find? entry.sameIndex,
          current.publicationStarted = false ∨ current.publicationDone = true) :
      FinishPipelinedOutcome state id entry ok jetty
        (state.setJetty id ⟨jetty.context, some { jetty.pipe with
          publicationsInFlight := jetty.pipe.publicationsInFlight - 1
          publicationFailed := true
          prefetchFailed := true }⟩)
  | retired (current : SqCompletion) (marked : List SqCompletion) (good : ok = true)
      (found : jetty.pipe.completions.find? entry.sameIndex = some current)
      (started : current.publicationStarted = true)
      (waiting : current.publicationDone = false)
      (marking : marked =
        markFirst entry.sameIndex SqCompletion.finish jetty.pipe.completions) :
      FinishPipelinedOutcome state id entry ok jetty
        (((state.emit ((marked.takeWhile (·.publicationDone)).map fun front =>
              .retired id front.request)).setJetty id
          ⟨{ jetty.context with
              consumer := jetty.context.consumer +
                ((marked.takeWhile (·.publicationDone)).map SqCompletion.wqebbs).sum
              busy := (jetty.pipe.retire marked).busyNow },
            some (jetty.pipe.retire marked)⟩).push [.retireSq id, .resumeSq id])

theorem finishSqPipelined_outcome {state : State} {id : Nat} {jetty : Jetty}
    (existing : state.jetty id = some jetty) (entry : SqCompletion) (ok : Bool) :
    FinishPipelinedOutcome state id entry ok jetty (finishSqPipelined state id entry ok) := by
  simp only [finishSqPipelined, existing]
  split
  next good =>
    split
    next missing =>
      refine .broken (.inr ?_)
      change jetty.pipe.completions.find? entry.sameIndex = none at missing
      simp [missing]
    next current found =>
      change jetty.pipe.completions.find? entry.sameIndex = some current at found
      split
      next proceed =>
        exact .retired current _ good found proceed.1 (by simpa using proceed.2) rfl
      next refused =>
        refine .broken (.inr ?_)
        rw [found]
        simp only [Option.mem_def, Option.some.injEq, forall_eq']
        cases started : current.publicationStarted with
        | false => exact .inl rfl
        | true =>
            right
            simpa [started] using refused
  next bad => exact .broken (.inl (by simpa using bad))

/-! ## Callbacks and replies -/

/-- The pipeline when a prefetch callback has run. -/
def SqPipeline.prefetched (pipe : SqPipeline) (failed : Bool) (cache : Cache) : SqPipeline :=
  { pipe with
    prefetchInflight := pipe.prefetchInflight - 1
    prefetchFailed := failed
    cache := cache }

inductive PrefetchOutcome (state : State) (id start count : Nat) (ok : Bool) (bytes : Bytes)
    (jetty : Jetty) : State → Prop where
  | failed (reason : jetty.pipe.prefetchFailed = true ∨ ok = false ∨
        bytes.length ≠ count * wqebbBytes) :
      PrefetchOutcome state id start count ok bytes jetty
        (state.setJetty id
          ⟨{ jetty.context with
              busy := (jetty.pipe.prefetched true jetty.pipe.cache).busyNow },
            some (jetty.pipe.prefetched true jetty.pipe.cache)⟩)
  | arrived (sound : jetty.pipe.prefetchFailed = false) (good : ok = true)
      (size : bytes.length = count * wqebbBytes) :
      PrefetchOutcome state id start count ok bytes jetty
        ((state.setJetty id
          ⟨{ jetty.context with
              busy := (jetty.pipe.prefetched false
                (jetty.pipe.cache.fill start count bytes)).busyNow },
            some (jetty.pipe.prefetched false
              (jetty.pipe.cache.fill start count bytes))⟩).push
          [.processSq id jetty.context.targetProducer []])

theorem prefetched_outcome {state : State} {id : Nat} {jetty : Jetty}
    (existing : state.jetty id = some jetty) (start count : Nat) (ok : Bool) (bytes : Bytes) :
    PrefetchOutcome state id start count ok bytes jetty
      (prefetched state id start count ok bytes) := by
  simp only [prefetched, existing]
  cases failed : (jetty.pipe.prefetchFailed || !(ok && bytes.length == count * wqebbBytes)) with
  | true =>
      simp only [↓reduceIte]
      refine .failed ?_
      simpa [Decidable.imp_iff_not_or] using failed
  | false =>
      simp only [Bool.false_eq_true, ↓reduceIte]
      simp only [Bool.or_eq_false_iff, Bool.not_eq_false', Bool.and_eq_true,
        beq_iff_eq] at failed
      exact .arrived failed.1 failed.2.1 failed.2.2

inductive ContinueOutcome (state : State) (id : Nat) (raw : Bytes)
    (remaining nextSlot contiguous : Nat) (ok : Bool) (bytes : Bytes) (jetty : Jetty) :
    State → Prop where
  | failed : ContinueOutcome state id raw remaining nextSlot contiguous ok bytes jetty
      (state.setJetty id jetty.fail)
  | arrived (good : ok = true) (size : bytes.length = contiguous * wqebbBytes) :
      ContinueOutcome state id raw remaining nextSlot contiguous ok bytes jetty
        (state.push [.continueSqWqe id (raw ++ bytes) (remaining - contiguous)
          ((nextSlot + contiguous) &&& (jetty.context.depth - 1))])

theorem continued_outcome {state : State} {id : Nat} {jetty : Jetty}
    (existing : state.jetty id = some jetty) (raw : Bytes)
    (remaining nextSlot contiguous : Nat) (ok : Bool) (bytes : Bytes) :
    ContinueOutcome state id raw remaining nextSlot contiguous ok bytes jetty
      (continued state id raw remaining nextSlot contiguous ok bytes) := by
  simp only [continued, existing]
  split
  next arrived =>
    simp only [Bool.and_eq_true, beq_iff_eq] at arrived
    exact .arrived arrived.1 arrived.2
  next missing => exact .failed

inductive SendPayloadOutcome (state : State) (id : Nat) (raw : Bytes) (bytes : Bytes)
    (jetty : Jetty) : State → Prop where
  | failed : SendPayloadOutcome state id raw bytes jetty (state.setJetty id jetty.fail)
  | arrived : SendPayloadOutcome state id raw bytes jetty
      (state.push [.submitSqPayload id raw bytes none])

theorem sendPayloadRead_outcome {state : State} {id : Nat} {jetty : Jetty}
    (existing : state.jetty id = some jetty) (raw : Bytes) (expected : Nat) (ok : Bool)
    (bytes : Bytes) :
    SendPayloadOutcome state id raw bytes jetty
      (sendPayloadRead state id raw expected ok bytes) := by
  simp only [sendPayloadRead, existing]
  split
  · exact .arrived
  · exact .failed

/-- What a reply, or the callback of a READ, can do to the outstanding requests. -/
inductive PendingOutcome (state : State) : State → Prop where
  | ignored : PendingOutcome state state
  | progressed (pending progress : PendingRma)
      (found : state.findPending pending.requestId = some pending)
      (number : progress.requestId = pending.requestId)
      (owner : progress.jettyId = pending.jettyId)
      (request : progress.request = pending.request) :
      PendingOutcome state (state.setPending progress)
  | stored (pending progress : PendingRma) (taSsn address length : Nat)
      (found : state.findPending pending.requestId = some pending)
      (number : progress.requestId = pending.requestId)
      (owner : progress.jettyId = pending.jettyId)
      (request : progress.request = pending.request) :
      PendingOutcome state
        (((state.setPending progress).emit
          [.dmaWrite pending.jettyId pending.localToken address length]).call
            (.response pending.requestId taSsn length))
  | finished (pending : PendingRma) (status : Nat)
      (found : state.findPending pending.requestId = some pending) :
      PendingOutcome state ((state.erasePending pending.requestId).push
        [.completeSq pending.jettyId pending.request status 0])

theorem findPending_requestId {state : State} {requestId : Nat} {pending : PendingRma}
    (found : state.findPending requestId = some pending) :
    pending.requestId = requestId := by
  simpa using List.find?_some found

theorem failPending_outcome {state : State} {pending : PendingRma}
    (found : state.findPending pending.requestId = some pending) (status : Nat) :
    PendingOutcome state (failPending state pending status) := by
  unfold failPending
  split
  · exact .progressed pending _ found rfl rfl rfl
  · exact .finished pending status found

theorem receiveWriteAck_outcome (state : State) (reply : Reply) :
    PendingOutcome state (receiveWriteAck state reply) := by
  unfold receiveWriteAck
  split
  next missing => exact .ignored
  next pending found =>
    obtain same := findPending_requestId found
    rw [← same] at found ⊢
    split
    · exact .ignored
    · split
      · exact .ignored
      · split
        · exact .ignored
        · dsimp only
          split
          · exact .progressed pending _ found rfl rfl rfl
          · exact .finished pending 0 found

theorem receiveReadResponse_outcome (state : State) (reply : Reply) :
    PendingOutcome state (receiveReadResponse state reply) := by
  unfold receiveReadResponse
  split
  next missing => exact .ignored
  next pending found =>
    obtain same := findPending_requestId found
    rw [← same] at found ⊢
    split
    · exact .ignored
    · split
      · exact .ignored
      · split
        · exact .ignored
        · split
          · exact .ignored
          · exact .stored pending _ _ _ _ found rfl rfl rfl

theorem receive_outcome (state : State) (reply : Reply) :
    PendingOutcome state (receive state reply) := by
  unfold receive
  split
  · exact receiveWriteAck_outcome state reply
  · exact receiveReadResponse_outcome state reply
  · split
    next missing => exact .ignored
    next pending found =>
      exact failPending_outcome (findPending_requestId found ▸ found) 5

theorem readSent_outcome (state : State) (requestId : Nat) (ok : Bool) :
    PendingOutcome state (readSent state requestId ok) := by
  unfold readSent
  split
  · exact .ignored
  · split
    next missing => exact .ignored
    next pending found =>
      exact failPending_outcome (findPending_requestId found ▸ found) 1

theorem responseStored_outcome (state : State) (requestId taSsn transferLength : Nat)
    (ok : Bool) :
    PendingOutcome state (responseStored state requestId taSsn transferLength ok) := by
  unfold responseStored
  split
  next missing => exact .ignored
  next pending found =>
    obtain same := findPending_requestId found
    rw [← same] at found ⊢
    cases ok with
    | true =>
        simp only [↓reduceIte]
        split
        · exact .progressed pending _ found rfl rfl rfl
        · exact .finished pending _ found
    | false =>
        simp only [Bool.false_eq_true, ↓reduceIte]
        split
        · exact .progressed pending _ found rfl rfl rfl
        · exact .finished pending _ found

end Udma.Sq
