import Udma.Collections.Bag
import Udma.Sq.Prefetch
import Udma.Sq.Staging

/-!
# The ledger of a send queue

The abstract machine behind reservation, completion and retirement.  A ledger has
the unretired entries and the three counters of the ring, and counts what the
activations and callbacks of the Jetty still owe: the blocks a fetched descriptor
will take, the target producers captured by the loop, the entries handed to the
completion engine, and for each open entry the party that will complete it.  Every
action on a lane is a step of its ledger.
-/

namespace Udma.Sq

open Udma.Abi Udma.Arithmetic Udma.Collections Udma.Transition

structure Ledger where
  depth : Nat
  consumer : Nat
  target : Nat
  issue : Nat
  entries : List SqCompletion
  /-- Target producers that activations of the loop have read. -/
  targets : Multiset Nat
  /-- Blocks that fetched descriptors may take. -/
  demands : Multiset Nat
  publishing : Bool
  inflight : Nat
  /-- Entries under publication, with the result once it is known. -/
  finishers : Multiset (SqCompletion × Option Bool)
  /-- Requests that somebody will complete. -/
  owners : Multiset SqRequest
  history : List Observation

/-- A producer value that the signed comparison accepts. -/
def Advances (target next : Nat) : Prop := next = target ∨ ahead32 next target = true

/-- The arguments of a `WriteCqe` call are those of the entry. -/
structure CqeCall.Reports (call : CqeCall) (entry : SqCompletion) : Prop where
  opcode : call.opcode = entry.opcode
  entryIndex : call.entryIndex = entry.index
  byteCount : call.byteCount = entry.bytes
  immediate : call.immediate = entry.immediate
  status : call.status = entry.status
  substatus : call.substatus = entry.substatus

/-- The entry `ReserveSq` makes. -/
def SqRequest.entry (request : SqRequest) : SqCompletion :=
  { wqebbs := request.wqebbs, index := request.completedIndex, request := request }

/-- What is known of a publication when it begins. -/
def SqCompletion.verdict (entry : SqCompletion) : Option Bool :=
  if entry.enabled then none else some true

def SqCompletion.submission (entry : SqCompletion) (id : Nat) (call : CqeCall) :
    List Observation :=
  if entry.enabled then [.submitted id entry.request.position call] else []

namespace Ledger

/-- `tardy` and `lossy` say whether a step may complete a request that nobody owns any
more, or forget one that is still open. -/
inductive Step (pipelined : Bool) (id : Nat) (tardy lossy : Prop) : Ledger → Ledger → Prop where
  | same (ledger : Ledger) : Step pipelined id tardy lossy ledger ledger
  | vanish (ledger : Ledger) (targets demands : Multiset Nat)
      (finishers : Multiset (SqCompletion × Option Bool)) (owners : Multiset SqRequest)
      (empty : ledger.entries = []) (idle : ledger.inflight = 0)
      (fewerTargets : targets ≤ ledger.targets) (fewerDemands : demands ≤ ledger.demands)
      (fewerFinishers : finishers ≤ ledger.finishers) (fewerOwners : owners ≤ ledger.owners) :
      Step pipelined id tardy lossy ledger
        { ledger with
          targets := targets, demands := demands, finishers := finishers, owners := owners }
  | create (ledger : Ledger) (shift : Fin 16) (empty : ledger.entries = [])
      (level : ledger.target = 0 ∧ ledger.consumer = 0) :
      Step pipelined id tardy lossy ledger { ledger with depth := 1 <<< shift.val }
  | merge (ledger : Ledger) (target : Nat) (advances : Advances ledger.target target) :
      Step pipelined id tardy lossy ledger { ledger with target := target }
  | capture (ledger : Ledger) (target : Nat) (advances : Advances ledger.target target)
      (near : sub32 target ledger.consumer ≤ ledger.depth) :
      Step pipelined id tardy lossy ledger
        { ledger with target := target, targets := target ::ₘ ledger.targets }
  | direct (ledger : Ledger) (target : Nat) (advances : Advances ledger.target target)
      (near : sub32 target ledger.consumer ≤ ledger.depth)
      (level : (ledger.issue + 1) % 2 ^ 32 = target) :
      Step pipelined id tardy lossy ledger
        { ledger with target := target, demands := 1 ::ₘ ledger.demands }
  | forget (ledger : Ledger) (target : Nat) (targets : Multiset Nat)
      (held : ledger.targets = target ::ₘ targets) :
      Step pipelined id tardy lossy ledger { ledger with targets := targets }
  | take (ledger : Ledger) (target count : Nat) (targets : Multiset Nat)
      (held : ledger.targets = target ::ₘ targets)
      (fits : count ≤ sub32 target ledger.issue) :
      Step pipelined id tardy lossy ledger
        { ledger with targets := targets, demands := count ::ₘ ledger.demands }
  | release (ledger : Ledger) (count : Nat) (demands : Multiset Nat)
      (held : ledger.demands = count ::ₘ demands) :
      Step pipelined id tardy lossy ledger { ledger with demands := demands }
  | reserve (ledger : Ledger) (request : SqRequest)
      (alone : ledger.demands = {request.wqebbs}) (clear : ledger.targets = 0)
      (wide : 0 < request.wqebbs) (placed : request.position = ledger.issue)
      (named : request.completedIndex =
        completedIndex ledger.issue request.wqebbs ledger.depth) :
      Step pipelined id tardy lossy ledger
        { ledger with
          issue := ledger.issue + request.wqebbs
          entries := ledger.entries ++ [request.entry]
          demands := 0
          owners := request ::ₘ ledger.owners
          history := ledger.history ++ [.reserved id request] }
  | late (ledger : Ledger) (request : SqRequest) (allowed : tardy) :
      Step pipelined id tardy lossy ledger
        { ledger with owners := request ::ₘ ledger.owners }
  | lose (ledger : Ledger) (request : SqRequest) (owners : Multiset SqRequest)
      (held : ledger.owners = request ::ₘ owners) (allowed : lossy) :
      Step pipelined id tardy lossy ledger { ledger with owners := owners }
  | ignore (ledger : Ledger) (request : SqRequest) (status substatus : Nat)
      (owners : Multiset SqRequest) (held : ledger.owners = request ::ₘ owners)
      (reason : ∀ entry ∈ ledger.entries.find? request.names,
        entry.ready = true ∨ entry.wqebbs ≠ request.wqebbs) :
      Step pipelined id tardy lossy ledger
        { ledger with
          owners := owners
          history := ledger.history ++ [.completed id request status substatus] }
  | complete (ledger : Ledger) (request : SqRequest) (status substatus : Nat)
      (owners : Multiset SqRequest) (entry : SqCompletion)
      (held : ledger.owners = request ::ₘ owners)
      (found : ledger.entries.find? request.names = some entry)
      (waiting : entry.ready = false) (size : entry.wqebbs = request.wqebbs) :
      Step pipelined id tardy lossy ledger
        { ledger with
          entries := markFirst request.names
            (fun found => found.complete request status substatus) ledger.entries
          owners := owners
          history := ledger.history ++ [.completed id request status substatus] }
  | publish (ledger : Ledger) (front : SqCompletion) (rest : List SqCompletion) (call : CqeCall)
      (serial : pipelined = false) (queue : ledger.entries = front :: rest)
      (idle : ledger.publishing = false) (ready : front.ready = true)
      (reports : call.Reports front) :
      Step pipelined id tardy lossy ledger
        { ledger with
          publishing := true
          finishers := (front, front.verdict) ::ₘ ledger.finishers
          history := ledger.history ++ front.submission id call }
  | publishNext (ledger : Ledger) (next : SqCompletion) (call : CqeCall)
      (mode : pipelined = true)
      (found : ledger.entries.find? SqCompletion.unstarted = some next)
      (ready : next.ready = true) (reports : call.Reports next) :
      Step pipelined id tardy lossy ledger
        { ledger with
          entries := markFirst SqCompletion.unstarted SqCompletion.start ledger.entries
          publishing := true
          inflight := ledger.inflight + 1
          finishers := (next.start, next.verdict) ::ₘ ledger.finishers
          history := ledger.history ++ next.submission id call }
  | report (ledger : Ledger) (entry : SqCompletion) (ok : Bool)
      (finishers : Multiset (SqCompletion × Option Bool))
      (held : ledger.finishers = (entry, none) ::ₘ finishers) :
      Step pipelined id tardy lossy ledger
        { ledger with
          finishers := (entry, some ok) ::ₘ finishers
          history := ledger.history ++ [.published id entry.request.position ok] }
  | keep (ledger : Ledger) (entry : SqCompletion)
      (finishers : Multiset (SqCompletion × Option Bool)) (serial : pipelined = false)
      (held : ledger.finishers = (entry, some false) ::ₘ finishers) :
      Step pipelined id tardy lossy ledger { ledger with finishers := finishers }
  | pop (ledger : Ledger) (entry : SqCompletion)
      (finishers : Multiset (SqCompletion × Option Bool)) (serial : pipelined = false)
      (held : ledger.finishers = (entry, some true) ::ₘ finishers) :
      Step pipelined id tardy lossy ledger
        { ledger with
          consumer := ledger.consumer + entry.wqebbs
          entries := ledger.entries.tail
          publishing := false
          finishers := finishers
          history := ledger.history ++
            (ledger.entries.take 1).map fun front => .retired id front.request }
  | abort (ledger : Ledger) (entry : SqCompletion) (ok : Bool)
      (finishers : Multiset (SqCompletion × Option Bool)) (mode : pipelined = true)
      (held : ledger.finishers = (entry, some ok) ::ₘ finishers)
      (reason : ok = false ∨ ∀ current ∈ ledger.entries.find? entry.sameIndex,
        current.publicationStarted = false ∨ current.publicationDone = true) :
      Step pipelined id tardy lossy ledger
        { ledger with inflight := ledger.inflight - 1, finishers := finishers }
  | retire (ledger : Ledger) (entry current : SqCompletion) (marked : List SqCompletion)
      (finishers : Multiset (SqCompletion × Option Bool)) (mode : pipelined = true)
      (held : ledger.finishers = (entry, some true) ::ₘ finishers)
      (found : ledger.entries.find? entry.sameIndex = some current)
      (started : current.publicationStarted = true) (waiting : current.publicationDone = false)
      (marking : marked = markFirst entry.sameIndex SqCompletion.finish ledger.entries) :
      Step pipelined id tardy lossy ledger
        { ledger with
          consumer := ledger.consumer +
            ((marked.takeWhile (·.publicationDone)).map SqCompletion.wqebbs).sum
          entries := marked.dropWhile (·.publicationDone)
          publishing := decide (ledger.inflight - 1 ≠ 0)
          inflight := ledger.inflight - 1
          finishers := finishers
          history := ledger.history ++
            (marked.takeWhile (·.publicationDone)).map fun front => .retired id front.request }

end Ledger

/-! ## Lanes as ledgers -/

def Task.target : Task → Option Nat
  | .processSqLoop _ _ (.fill target) => some target
  | .processSqLoop _ _ (.head target) => some target
  | _ => none

/-- Number of blocks an activation that owns the fetch may reserve. -/
def Task.demand : Task → Option Nat
  | .continueSqWqe _ raw remaining _ => some (raw.length / wqebbBytes + remaining)
  | .handleSqWqe _ raw => some (raw.length / wqebbBytes)
  | .submitSqPayload _ raw _ none => some (SqWqe.wqebbCount raw)
  | _ => none

def Callback.demand : Callback → Option Nat
  | .continuation _ raw remaining _ contiguous =>
      some (raw.length / wqebbBytes + max remaining contiguous)
  | .sendPayload _ raw _ => some (SqWqe.wqebbCount raw)
  | _ => none

def Task.finisher : Task → Option (SqCompletion × Option Bool)
  | .finishSq _ entry ok => some (entry, some ok)
  | .finishSqPipelined _ entry ok => some (entry, some ok)
  | _ => none

def Callback.finisher : Callback → Option (SqCompletion × Option Bool)
  | .cqe _ entry => some (entry, none)
  | _ => none

def Task.owner : Task → Option SqRequest
  | .completeSq _ request _ _ => some request
  | .submitSqPayload _ _ _ reserved => reserved
  | _ => none

/-- The network completes a SEND; a WRITE is completed by its reply. -/
def Callback.owner : Callback → Option SqRequest
  | .payloadSent _ request requestId => if requestId = 0 then some request else none
  | _ => none

/-- The observations that the history of a ledger keeps. -/
def Observation.entered : Observation → Option Observation
  | .reserved id request => some (.reserved id request)
  | .completed id request status substatus => some (.completed id request status substatus)
  | .submitted id position call => some (.submitted id position call)
  | .published id position ok => some (.published id position ok)
  | .retired id request => some (.retired id request)
  | _ => none

attribute [simp] Task.target Task.demand Callback.demand Task.finisher Callback.finisher
  Task.owner Callback.owner Observation.entered

def Lane.ledger (lane : Lane) : Ledger where
  depth := lane.context.depth
  consumer := lane.context.consumer
  target := lane.context.targetProducer
  issue := lane.pipe.issue
  entries := lane.pipe.completions
  targets := bag Task.target lane.tasks
  demands := bag Task.demand lane.tasks + bag Callback.demand lane.calls
  publishing := lane.pipe.publishing
  inflight := lane.pipe.publicationsInFlight
  finishers := bag Task.finisher lane.tasks + bag Callback.finisher lane.calls
  owners := bag Task.owner lane.tasks + bag Callback.owner lane.calls +
    bag (fun pending => some pending.request) lane.pending +
    bag (fun prepared => some prepared.request) lane.pipe.preparedWrites
  history := gather Observation.entered lane.trace

@[simp] theorem entered_retired (id : Nat) (entries : List SqCompletion) :
    gather Observation.entered
        (entries.map fun front => Observation.retired id front.request) =
      entries.map fun front => Observation.retired id front.request := by
  induction entries with
  | nil => rfl
  | cons front rest inductionHypothesis => simp [inductionHypothesis]

theorem mem_history {trace : List Observation} {observation : Observation} :
    observation ∈ gather Observation.entered trace ↔
      observation ∈ trace ∧ observation.entered = some observation := by
  rw [mem_gather]
  constructor
  · rintro ⟨item, inside, entered⟩
    obtain rfl : item = observation := by
      cases item <;> simp_all
    exact ⟨inside, entered⟩
  · rintro ⟨inside, entered⟩
    exact ⟨observation, inside, entered⟩

/-! ## Retirement code and the direct window -/

/-- Code of the retirement mode that is not configured. -/
def Task.misfit (pipelined : Bool) : Task → Bool
  | .retireSqLoop _ => pipelined
  | .finishSq _ _ _ => pipelined
  | .retireSqPipelinedLoop _ => !pipelined
  | .finishSqPipelined _ _ _ => !pipelined
  | _ => false

attribute [simp] Task.misfit

/-- Only the configured retirement code runs, and the direct window is one block. -/
structure Lane.Regular (config : Config) (lane : Lane) : Prop where
  mode : tally (Task.misfit config.pipelinedCompletionDma) lane.tasks = 0
  window : lane.context.directWqe.length = wqebbBytes

@[simp] theorem QueueContext.mergeProducer_sqShift (context : QueueContext) (producer : Nat) :
    (context.mergeProducer producer).sqShift = context.sqShift := by
  unfold mergeProducer
  split <;> rfl

@[simp] theorem QueueContext.mergeProducer_directWqe (context : QueueContext) (producer : Nat) :
    (context.mergeProducer producer).directWqe = context.directWqe := by
  unfold mergeProducer
  split <;> rfl

theorem QueueContext.accept_directWqe {context : QueueContext}
    (window : context.directWqe.length = wqebbBytes) (producer : Nat) (direct : Bytes) :
    (context.accept producer direct).directWqe.length = wqebbBytes := by
  unfold accept
  split
  next complete => exact complete
  next => simpa using window

@[simp] theorem storeBytes_length (window : Bytes) (offset : Nat) (data : Bytes) :
    (storeBytes window offset data).length = window.length := by
  induction data generalizing window offset with
  | nil => rfl
  | cons byte rest inductionHypothesis => simp [storeBytes, inductionHypothesis]

theorem Ran.regular {config : Config} {base after : State} {id : Nat} {task : Task}
    (ran : Ran config base id task after)
    (regular : ((base.push [task]).lane id).Regular config) : (after.lane id).Regular config := by
  obtain ⟨mode, window⟩ := regular
  cases ran with
  | absent task missing silent =>
      simp only [State.lane_push, tally_append] at mode
      exact ⟨by omega, window⟩
  | completeAbsent => exact ⟨by simpa using mode, by simpa using window⟩
  | processSq producer direct jetty _ existing outcome =>
      have same := base.lane_jetty id existing
      simp [same] at mode window
      cases outcome <;>
        exact ⟨by simpa using mode, by simpa using jetty.context.accept_directWqe window _ _⟩
  | resumeSq jetty _ existing outcome =>
      have same := base.lane_jetty id existing
      simp [same] at mode window
      cases outcome <;>
        exact ⟨by simpa using mode, by simpa using jetty.context.accept_directWqe window _ _⟩
  | processSqLoop producer jetty _ existing outcome =>
      have same := base.lane_jetty id existing
      simp [same] at mode window
      cases outcome <;> exact ⟨by simpa using mode, by simpa using window⟩
  | fillSqCache producer targetProducer jetty _ existing outcome =>
      have same := base.lane_jetty id existing
      simp [same] at mode window
      cases outcome <;> exact ⟨by simpa using mode, by simpa [same] using window⟩
  | executeSqHead producer targetProducer jetty _ existing outcome =>
      have same := base.lane_jetty id existing
      simp [same] at mode window
      cases outcome <;> exact ⟨by simpa using mode, by simpa [same] using window⟩
  | continueLast => exact ⟨by simpa using mode, by simpa using window⟩
  | continueRead => exact ⟨by simpa using mode, by simpa using window⟩
  | handleSqWqe raw jetty _ existing outcome =>
      have same := base.lane_jetty id existing
      simp [same] at mode window
      cases outcome <;>
        exact ⟨by simpa [prepareWrite, rejectSend, reserveSq] using mode,
          by simpa [same, prepareWrite, rejectSend, reserveSq, Jetty.fail, Jetty.release]
            using window⟩
  | drainPreparedWrites jetty _ existing outcome =>
      have same := base.lane_jetty id existing
      simp [same] at mode window
      cases outcome <;> exact ⟨by simpa using mode, by simpa [same] using window⟩
  | submitSqPayload raw payload reserved jetty _ existing outcome =>
      have same := base.lane_jetty id existing
      simp [same] at mode window
      cases outcome <;>
        exact ⟨by simpa [reserveSq] using mode,
          by simpa [same, reserveSq, Jetty.release] using window⟩
  | releaseSqFetch jetty existing =>
      have same := base.lane_jetty id existing
      exact ⟨by simpa using mode, by simpa [same, Jetty.release] using window⟩
  | completeSq request status substatus jetty _ existing outcome =>
      have same := base.lane_jetty id existing
      simp [same] at mode window
      cases outcome <;> exact ⟨by simpa using mode, by simpa [same] using window⟩
  | retireSq jetty _ existing outcome =>
      have same := base.lane_jetty id existing
      simp [same] at mode window
      cases outcome with
      | skipped => exact ⟨mode, by simpa [same] using window⟩
      | entered =>
          unfold retireLoop
          split
          next pipelined => exact ⟨by simpa [pipelined] using mode, by simpa using window⟩
          next serial => exact ⟨by simpa [serial] using mode, by simpa using window⟩
  | retireSqLoop jetty _ existing outcome =>
      have same := base.lane_jetty id existing
      simp [same] at mode window
      cases outcome with
      | stopped => exact ⟨by simpa using mode.2, by simpa using window⟩
      | published =>
          unfold publishSq
          split <;> exact ⟨by simpa using mode, by simpa using window⟩
  | retireSqPipelinedLoop jetty _ existing outcome =>
      have same := base.lane_jetty id existing
      simp [same] at mode window
      cases outcome with
      | stopped => exact ⟨by simpa using mode.2, by simpa using window⟩
      | published =>
          unfold publishSq
          split <;> exact ⟨by simpa using mode, by simpa using window⟩
  | finishKept entry =>
      simp at mode
      exact ⟨mode.2, by simpa using window⟩
  | finishPopped entry jetty existing =>
      have same := base.lane_jetty id existing
      simp [same] at mode window
      exact ⟨by simpa using mode.2, by simpa using window⟩
  | finishSqPipelined entry ok jetty _ existing outcome =>
      have same := base.lane_jetty id existing
      simp [same] at mode window
      cases outcome <;> exact ⟨by simpa using mode.2, by simpa using window⟩

theorem Called.regular {config : Config} {base after : State} {ok : Bool} {bytes : Bytes}
    {id : Nat} {callback : Callback}
    (called : Called config base ok bytes id callback after)
    (regular : (base.lane id).Regular config) : (after.lane id).Regular config := by
  obtain ⟨mode, window⟩ := regular
  cases called with
  | absent => exact ⟨mode, window⟩
  | prefetch start count jetty _ existing outcome =>
      have same := base.lane_jetty id existing
      simp [same] at window
      cases outcome <;> exact ⟨by simpa using mode, by simpa using window⟩
  | continuation raw remaining nextSlot contiguous jetty _ existing outcome =>
      have same := base.lane_jetty id existing
      simp [same] at window
      cases outcome <;>
        exact ⟨by simpa using mode, by simpa [same, Jetty.fail, Jetty.release] using window⟩
  | writePayload position expected jetty existing =>
      have same := base.lane_jetty id existing
      simp [same] at window
      exact ⟨by simpa using mode, by simpa using window⟩
  | sendPayload raw expected jetty _ existing outcome =>
      have same := base.lane_jetty id existing
      simp [same] at window
      cases outcome <;>
        exact ⟨by simpa using mode, by simpa [same, Jetty.fail, Jetty.release] using window⟩
  | sendFailed request requestId bad =>
      split
      · exact ⟨by simpa [State.lane] using mode, window⟩
      · exact ⟨by simpa using mode, by simpa using window⟩
  | writeSent => exact ⟨mode, window⟩
  | sendDone => exact ⟨by simpa using mode, by simpa using window⟩
  | cqe entry =>
      split
      next pipelined => exact ⟨by simpa [pipelined] using mode, by simpa using window⟩
      next serial => exact ⟨by simpa [serial] using mode, by simpa using window⟩

theorem Acts.regular {config : Config} {id : Nat} {state after : State} {event : Event}
    (acts : Acts config id state event after) (regular : (state.lane id).Regular config) :
    (after.lane id).Regular config := by
  cases acts with
  | task base task _ before own calm ran => exact ran.regular (before ▸ regular)
  | callback index ok bytes callback calls base _ own calm before chosen held called =>
      refine called.regular ?_
      rw [before, State.lane_holding] at regular
      exact ⟨regular.mode, regular.window⟩
  | progressed _ _ pending progress earlier later observed calm held owner request silent lane =>
      rw [lane]
      exact ⟨regular.mode, regular.window⟩
  | finished _ _ pending earlier later status calm held lane =>
      rw [lane]
      exact ⟨by simpa using regular.mode, regular.window⟩
  | doorbell producer calm => exact ⟨by simpa using regular.mode, by simpa using regular.window⟩
  | direct offset data jetty _ calm existing outcome =>
      have same := state.lane_jetty id existing
      have window := regular.window
      simp [same] at window
      cases outcome <;> exact ⟨by simpa using regular.mode, by simpa using window⟩
  | created context jetty calm missing fresh =>
      rw [State.lane_setJetty]
      exact ⟨regular.mode, by simp [fresh.directWqe, wqebbBytes]⟩

theorem regular_of_reaches {config : Config} {guard : State → Event → State → Prop}
    {state : State} (reached : Reaches (step config) guard (State.initial config) state)
    (id : Nat) : (state.lane id).Regular config := by
  refine lane_of_reaches id (Lane.Regular config) reached ?_ ?_
  · rw [State.initial_lane]
    exact ⟨rfl, rfl⟩
  · intro before event after earlier regular acts _ _
    exact acts.regular regular

/-! ## Actions as steps of the ledger -/

/-- A failed send is reported for a WRITE of the Jetty that is no longer outstanding. -/
def State.tardy (state : State) (id : Nat) : Event → Bool
  | .fire index ok _ =>
      match state.outstanding[index]? with
      | some (.payloadSent other _ requestId) =>
          other == id && !ok && requestId != 0 && (state.findPending requestId).isNone
      | _ => false
  | _ => false

/-- `SubmitSqPayload` returns without a word for a WRITE of the Jetty that has an entry. -/
def State.lossy (state : State) (id : Nat) : Event → Bool
  | .run =>
      match state.stack with
      | .submitSqPayload other raw _ (some _) :: _ =>
          other == id && (decide (raw.length < wqebbBytes) ||
            (findRoute state.tpRoutes (SqWqe.tpn raw)).isNone)
      | _ => false
  | _ => false

theorem QueueContext.mergeProducer_advances (context : QueueContext) (producer : Nat) :
    Advances context.targetProducer (context.mergeProducer producer).targetProducer := by
  unfold mergeProducer
  split
  next ahead => exact .inr ahead
  next => exact .inl rfl

theorem QueueContext.accept_fields (context : QueueContext) (producer : Nat) (direct : Bytes) :
    (context.accept producer direct).depth = context.depth ∧
    (context.accept producer direct).consumer = context.consumer ∧
    (context.accept producer direct).targetProducer =
      (context.mergeProducer producer).targetProducer := by
  unfold accept
  split
  · exact ⟨context.mergeProducer_depth producer, by simp, rfl⟩
  · exact ⟨by simp, by simp, rfl⟩

theorem Cache.find_mem {cache : Cache} {position : Nat} {block : Bytes}
    (found : cache.find position = some block) : (position, block) ∈ cache := by
  obtain ⟨entry, hit, rfl⟩ := Option.map_eq_some_iff.mp found
  obtain rfl : entry.1 = position := by simpa using List.find?_some hit
  exact List.mem_of_find?_eq_some hit

/-- Blocks that have arrived are whole. -/
theorem Cache.blocks_length {cache : Cache}
    (valid : ∀ entry ∈ cache, entry.2 = [] ∨ entry.2.length = wqebbBytes)
    {position count : Nat} {bytes : Bytes} (complete : cache.blocks position count = some bytes) :
    bytes.length = count * wqebbBytes := by
  induction count generalizing position bytes with
  | zero =>
      obtain rfl : [] = bytes := by simpa [blocks] using complete
      simp
  | succ count inductionHypothesis =>
      unfold blocks at complete
      split at complete
      next => simp at complete
      next block found =>
        split at complete
        next => simp at complete
        next arrived =>
          obtain ⟨rest, tail, rfl⟩ := Option.map_eq_some_iff.mp complete
          have size := (valid _ (find_mem found)).resolve_left (by simpa using arrived)
          rw [List.length_append, inductionHypothesis tail, size, Nat.succ_mul, Nat.add_comm]

theorem Admitted.blocks {config : Config} {state : State} {jetty : Jetty} {raw : Bytes}
    {route : TpRoute} (admitted : Admitted config state jetty raw route) :
    raw.length / wqebbBytes = SqWqe.wqebbCount raw := by
  have header := admitted.header
  simp only [headerValid, Bool.and_eq_true, beq_iff_eq] at header
  rw [header.1.2]
  simp [wqebbBytes]

/-- The activation that owns the fetch is the only one that takes blocks. -/
theorem Lane.Locked.demands_alone {base : State} {id : Nat} {task : Task}
    (locked : ((base.push [task]).lane id).Locked) (own : task.on id = true)
    (taking : task.fetching = true) :
    bag Task.target (base.lane id).tasks = 0 ∧ bag Task.demand (base.lane id).tasks = 0 ∧
      bag Callback.demand (base.lane id).calls = 0 := by
  have fills := locked.fills_eq_zero own taking
  have fetch := locked.fetch
  have single := Bool.toNat_le ((base.lane id).pipe.fetching)
  simp only [Lane.gate, State.lane_push, List.filter_cons_of_pos own, List.filter_nil,
    List.cons_append, List.nil_append, tally_cons, taking, Bool.toNat_true] at fetch
  simp only [Lane.pipe] at fetch single
  refine ⟨?_, ?_, ?_⟩
  · rw [← Multiset.card_eq_zero, card_bag Task.filling (fun task => ?_), fills]
    cases task with
    | processSqLoop who producer stage => cases stage <;> rfl
    | _ => rfl
  · rw [← Multiset.card_eq_zero, card_bag Task.fetching (fun task => ?_)]
    · omega
    · cases task with
      | submitSqPayload who raw payload reserved => cases reserved <;> rfl
      | _ => rfl
  · rw [← Multiset.card_eq_zero, card_bag Callback.fetching (fun callback => ?_)]
    · omega
    · cases callback <;> rfl

theorem Ledger.Step.to {pipelined : Bool} {id : Nat} {tardy lossy : Prop}
    {ledger next other : Ledger} (step : Step pipelined id tardy lossy ledger next)
    (same : next = other) : Step pipelined id tardy lossy ledger other := same ▸ step

theorem Ran.ledger {config : Config} {base after : State} {id : Nat} {task : Task}
    (ran : Ran config base id task after) (own : task.on id = true)
    (locked : ((base.push [task]).lane id).Locked)
    (regular : ((base.push [task]).lane id).Regular config)
    (stock : ((base.push [task]).lane id).stock.Sound fun _ block => block.length = wqebbBytes)
    (staged : ((base.push [task]).lane id).staging.Sound)
    (drawn : 0 < base.nextRmaRequest) {tardy lossy : Prop}
    (lost : ∀ raw payload request, task = .submitSqPayload id raw payload (some request) →
      raw.length < wqebbBytes ∨ findRoute base.tpRoutes (SqWqe.tpn raw) = none → lossy) :
    Ledger.Step config.pipelinedCompletionDma id tardy lossy
      ((base.push [task]).lane id).ledger (after.lane id).ledger := by
  cases ran with
  | absent task missing silent =>
      have blank := base.lane_jetty_none id missing
      refine (Ledger.Step.vanish _ (bag Task.target (base.lane id).tasks)
        (bag Task.demand (base.lane id).tasks + bag Callback.demand (base.lane id).calls)
        (bag Task.finisher (base.lane id).tasks + bag Callback.finisher (base.lane id).calls)
        (bag Task.owner (base.lane id).tasks + bag Callback.owner (base.lane id).calls +
          bag (fun pending => some pending.request) (base.lane id).pending) ?_ ?_ ?_ ?_ ?_ ?_).to ?_
      · simp [Lane.ledger, blank]
      · simp [Lane.ledger, blank]
      · simp only [Lane.ledger, State.lane_push, bag_append]
        exact Multiset.le_add_left _ _
      · simp only [Lane.ledger, State.lane_push, bag_append]
        exact add_le_add_left (Multiset.le_add_left _ _) _
      · simp only [Lane.ledger, State.lane_push, bag_append]
        exact add_le_add_left (Multiset.le_add_left _ _) _
      · simp only [Lane.ledger, State.lane_push, bag_append, blank, Lane.pipe, Jetty.blank_pipe,
          bag_nil, add_zero]
        exact add_le_add_left (add_le_add_left (Multiset.le_add_left _ _) _) _
      · simp [Lane.ledger, blank]
  | completeAbsent request status substatus missing =>
      have blank := base.lane_jetty_none id missing
      refine (Ledger.Step.ignore _ request status substatus
        (bag Task.owner (base.lane id).tasks + bag Callback.owner (base.lane id).calls +
          bag (fun pending => some pending.request) (base.lane id).pending) ?_ ?_).to ?_
      · simp [Lane.ledger, blank]
      · simp [Lane.ledger, blank]
      · simp [Lane.ledger, blank]
  | processSq producer direct jetty _ existing outcome =>
      have same := base.lane_jetty id existing
      obtain ⟨depth, consumer, target⟩ := jetty.context.accept_fields producer direct
      refine (Ledger.Step.merge _ _
        (by simpa [Lane.ledger, same] using jetty.context.mergeProducer_advances producer)).to ?_
      cases outcome <;> simp [Lane.ledger, same, depth, consumer, target]
  | resumeSq jetty _ existing outcome =>
      have same := base.lane_jetty id existing
      obtain ⟨depth, consumer, target⟩ :=
        jetty.context.accept_fields jetty.context.targetProducer []
      refine (Ledger.Step.merge _ _ (by simpa [Lane.ledger, same] using
        jetty.context.mergeProducer_advances jetty.context.targetProducer)).to ?_
      cases outcome <;> simp [Lane.ledger, same, depth, consumer, target]
  | processSqLoop producer jetty _ existing outcome =>
      have same := base.lane_jetty id existing
      have advances := jetty.context.mergeProducer_advances producer
      cases outcome with
      | left => exact (Ledger.Step.same _).to (by simp [Lane.ledger, same])
      | blocked =>
          refine (Ledger.Step.merge _ _ (by simpa [Lane.ledger, same] using advances)).to ?_
          simp [Lane.ledger, same]
      | tooFar =>
          refine (Ledger.Step.merge _ _ (by simpa [Lane.ledger, same] using advances)).to ?_
          simp [Lane.ledger, same]
      | caughtUp =>
          refine (Ledger.Step.merge _ _ (by simpa [Lane.ledger, same] using advances)).to ?_
          simp [Lane.ledger, same, QueueContext.depth]
      | direct clear near pending level =>
          refine (Ledger.Step.direct _ _ (by simpa [Lane.ledger, same] using advances)
            (by simpa [Lane.ledger, same] using near)
            (by simpa [Lane.ledger, same] using level)).to ?_
          have window := regular.window
          simp [same] at window
          simp [Lane.ledger, same, QueueContext.depth, window, wqebbBytes]
      | filling clear behind near =>
          refine (Ledger.Step.capture _ _ (by simpa [Lane.ledger, same] using advances)
            (by simpa [Lane.ledger, same] using near)).to ?_
          simp [Lane.ledger, same]
  | fillSqCache producer targetProducer jetty _ existing outcome =>
      have same := base.lane_jetty id existing
      cases outcome <;>
        exact (Ledger.Step.same _).to (by simp [Lane.ledger, same, QueueContext.depth])
  | executeSqHead producer targetProducer jetty _ existing outcome =>
      have same := base.lane_jetty id existing
      have valid := stock.valid
      simp only [Lane.stock, State.lane_push, Lane.pipe, same] at valid
      have held : ((base.push [.processSqLoop id producer (.head targetProducer)]).lane
          id).ledger.targets = targetProducer ::ₘ bag Task.target (base.lane id).tasks := by
        simp [Lane.ledger]
      cases outcome with
      | failed | absent | incomplete | malformed =>
          exact (Ledger.Step.forget _ _ _ held).to (by simp [Lane.ledger, same])
      | handed head rest sound cached arrived fits complete =>
          have headSize := (valid _ (Cache.find_mem cached)).resolve_left arrived
          have restSize := Cache.blocks_length valid complete
          have positive := SqWqe.wqebbCount_pos head
          have size : (head.length + rest.length) / wqebbBytes = SqWqe.wqebbCount head := by
            rw [headSize, restSize, wqebbBytes]
            omega
          refine (Ledger.Step.take _ _ _ _ held
            (by simpa [Lane.ledger, same] using fits.1)).to ?_
          simp [Lane.ledger, same, QueueContext.depth, size]
      | oversized head sound cached arrived fits large =>
          have headSize := (valid _ (Cache.find_mem cached)).resolve_left arrived
          have positive := SqWqe.wqebbCount_pos head
          have size : head.length / wqebbBytes + (SqWqe.wqebbCount head - 1) =
              SqWqe.wqebbCount head := by
            rw [headSize, wqebbBytes]
            omega
          refine (Ledger.Step.take _ _ _ _ held
            (by simpa [Lane.ledger, same] using fits.1)).to ?_
          simp [Lane.ledger, same, QueueContext.depth, size]
  | continueLast => exact (Ledger.Step.same _).to (by simp [Lane.ledger])
  | continueRead raw remaining nextSlot jetty existing more =>
      exact (Ledger.Step.same _).to (by simp [Lane.ledger])
  | handleSqWqe raw jetty _ existing outcome =>
      have same := base.lane_jetty id existing
      obtain ⟨noTarget, noTask, noCall⟩ := locked.demands_alone own rfl
      have alone : ((base.push [.handleSqWqe id raw]).lane id).ledger.demands =
          {raw.length / wqebbBytes} := by
        simp [Lane.ledger, noTask, noCall]
      have clear : ((base.push [.handleSqWqe id raw]).lane id).ledger.targets = 0 := by
        simp [Lane.ledger, noTarget]
      cases outcome with
      | failed =>
          refine (Ledger.Step.release _ _ 0 (by simpa using alone)).to ?_
          simp [Lane.ledger, same, Jetty.fail, Jetty.release, QueueContext.depth, noTask, noCall]
      | released =>
          refine (Ledger.Step.release _ _ 0 (by simpa using alone)).to ?_
          simp [Lane.ledger, same, Jetty.release, QueueContext.depth, noTask, noCall]
      | read route frame pending admitted opcode tpn port owner number request =>
          rw [admitted.blocks] at alone
          refine (Ledger.Step.reserve _ (jetty.requestFor raw (SqWqe.firstSge raw).length) alone
            clear (SqWqe.wqebbCount_pos raw) (by simp [Lane.ledger, same, Jetty.requestFor,
              SqRequest.ofWqe]) (by simp [Lane.ledger, same, Jetty.requestFor,
              SqRequest.ofWqe])).to ?_
          simp [Lane.ledger, same, reserveSq, SqPipeline.reserve, noTask, noCall, owner, request,
            SqRequest.entry, Jetty.requestFor, SqRequest.ofWqe]
      | prepared route admitted opcode =>
          rw [admitted.blocks] at alone
          refine (Ledger.Step.reserve _ (jetty.requestFor raw (SqWqe.firstSge raw).length) alone
            clear (SqWqe.wqebbCount_pos raw) (by simp [Lane.ledger, same, Jetty.requestFor,
              SqRequest.ofWqe]) (by simp [Lane.ledger, same, Jetty.requestFor,
              SqRequest.ofWqe])).to ?_
          simp [Lane.ledger, same, prepareWrite, reserveSq, SqPipeline.reserve, noTask, noCall,
            SqRequest.entry, Jetty.requestFor, SqRequest.ofWqe]
      | rejected route length admitted opcode =>
          rw [admitted.blocks] at alone
          refine (Ledger.Step.reserve _ (jetty.requestFor raw length) alone
            clear (SqWqe.wqebbCount_pos raw) (by simp [Lane.ledger, same, Jetty.requestFor,
              SqRequest.ofWqe]) (by simp [Lane.ledger, same, Jetty.requestFor,
              SqRequest.ofWqe])).to ?_
          simp [Lane.ledger, same, rejectSend, reserveSq, SqPipeline.reserve, noTask, noCall,
            SqRequest.entry, Jetty.requestFor, SqRequest.ofWqe]
      | inlined route payload admitted =>
          exact (Ledger.Step.same _).to (by simp [Lane.ledger, same, admitted.blocks])
      | reading route observation expected admitted alone observed =>
          exact (Ledger.Step.same _).to (by simp [Lane.ledger, same, admitted.blocks, observed])
  | drainPreparedWrites jetty _ existing outcome =>
      have same := base.lane_jetty id existing
      cases outcome with
      | resumed => exact (Ledger.Step.same _).to (by simp [Lane.ledger, same])
      | failed front rest queue => exact (Ledger.Step.same _).to (by simp [Lane.ledger, same, queue])
      | submitted front rest queue =>
          exact (Ledger.Step.same _).to (by simp [Lane.ledger, same, queue])
  | submitSqPayload raw payload reserved jetty _ existing outcome =>
      have same := base.lane_jetty id existing
      cases outcome with
      | released =>
          refine (Ledger.Step.release _ (SqWqe.wqebbCount raw)
            (bag Task.demand (base.lane id).tasks + bag Callback.demand (base.lane id).calls)
            (by simp [Lane.ledger])).to ?_
          simp [Lane.ledger, same, Jetty.release, QueueContext.depth]
      | lost _ reason =>
          cases reserved with
          | none =>
              refine (Ledger.Step.release _ (SqWqe.wqebbCount raw)
                (bag Task.demand (base.lane id).tasks + bag Callback.demand (base.lane id).calls)
                (by simp [Lane.ledger])).to ?_
              simp [Lane.ledger, same]
          | some request =>
              refine (Ledger.Step.lose _ request
                (bag Task.owner (base.lane id).tasks + bag Callback.owner (base.lane id).calls +
                  bag (fun pending => some pending.request) (base.lane id).pending +
                  bag (fun prepared => some prepared.request) jetty.pipe.preparedWrites)
                (by simp [Lane.ledger, same]) (lost raw payload request rfl reason)).to ?_
              simp [Lane.ledger, same]
      | freshSend =>
          obtain ⟨noTarget, noTask, noCall⟩ := locked.demands_alone own rfl
          refine (Ledger.Step.reserve _ (jetty.requestFor raw payload.length)
            (by simp [Lane.ledger, noTask, noCall, Jetty.requestFor, SqRequest.ofWqe])
            (by simp [Lane.ledger, noTarget]) (SqWqe.wqebbCount_pos raw)
            (by simp [Lane.ledger, same, Jetty.requestFor, SqRequest.ofWqe])
            (by simp [Lane.ledger, same, Jetty.requestFor, SqRequest.ofWqe])).to ?_
          simp [Lane.ledger, same, reserveSq, SqPipeline.reserve, noTask, noCall,
            SqRequest.entry, Jetty.requestFor, SqRequest.ofWqe]
      | freshWrite route frame pending opcode sound found tpn port owner number request =>
          obtain ⟨noTarget, noTask, noCall⟩ := locked.demands_alone own rfl
          refine (Ledger.Step.reserve _ (jetty.requestFor raw payload.length)
            (by simp [Lane.ledger, noTask, noCall, Jetty.requestFor, SqRequest.ofWqe])
            (by simp [Lane.ledger, noTarget]) (SqWqe.wqebbCount_pos raw)
            (by simp [Lane.ledger, same, Jetty.requestFor, SqRequest.ofWqe])
            (by simp [Lane.ledger, same, Jetty.requestFor, SqRequest.ofWqe])).to ?_
          simp [Lane.ledger, same, reserveSq, SqPipeline.reserve, noTask, noCall, owner, request,
            SqRequest.entry, Jetty.requestFor, SqRequest.ofWqe, Nat.ne_of_gt drawn]
      | heldSend held route frame opcode =>
          have write := (staged.submitted ⟨held, raw, payload⟩ (by simp [Lane.staging])).2
          exact absurd write opcode
      | heldWrite held route frame pending opcode found tpn port owner number request =>
          -- the request rebuilt from the descriptor is the one that was reserved
          have rebuilt := (staged.submitted ⟨held, raw, payload⟩ (by simp [Lane.staging])).1 jetty
          dsimp only at rebuilt
          rw [rebuilt] at request
          refine (Ledger.Step.same _).to ?_
          simp [Lane.ledger, same, owner, request, Nat.ne_of_gt drawn]
  | releaseSqFetch jetty existing =>
      have same := base.lane_jetty id existing
      refine (Ledger.Step.same _).to ?_
      simp [Lane.ledger, same, Jetty.release, QueueContext.depth]
  | completeSq request status substatus jetty _ existing outcome =>
      have same := base.lane_jetty id existing
      have held : ((base.push [.completeSq id request status substatus]).lane id).ledger.owners =
          request ::ₘ (bag Task.owner (base.lane id).tasks +
            bag Callback.owner (base.lane id).calls +
            bag (fun pending => some pending.request) (base.lane id).pending +
            bag (fun prepared => some prepared.request) jetty.pipe.preparedWrites) := by
        simp [Lane.ledger, same]
      cases outcome with
      | ignored reason =>
          refine (Ledger.Step.ignore _ request status substatus _ held
            (by simpa [Lane.ledger, same] using reason)).to ?_
          simp [Lane.ledger, same]
      | marked entry found waiting size =>
          refine (Ledger.Step.complete _ request status substatus _ entry held
            (by simpa [Lane.ledger, same] using found) waiting size).to ?_
          simp [Lane.ledger, same]
  | retireSq jetty _ existing outcome =>
      have same := base.lane_jetty id existing
      cases outcome with
      | skipped => exact (Ledger.Step.same _).to (by simp [Lane.ledger])
      | entered =>
          refine (Ledger.Step.same _).to ?_
          unfold retireLoop
          split <;> simp [Lane.ledger, same]
  | retireSqLoop jetty _ existing outcome =>
      have same := base.lane_jetty id existing
      have serial : config.pipelinedCompletionDma = false := by
        have mode := regular.mode
        simp at mode
        exact mode.1
      cases outcome with
      | stopped => exact (Ledger.Step.same _).to (by simp [Lane.ledger, same])
      | published front rest queue idle ready =>
          refine (Ledger.Step.publish _ front rest (cqeCall jetty.context id front) serial
            (by simpa [Lane.ledger, same] using queue) (by simpa [Lane.ledger, same] using idle)
            ready ⟨rfl, rfl, rfl, rfl, rfl, rfl⟩).to ?_
          unfold publishSq SqCompletion.verdict SqCompletion.submission
          split <;> simp [Lane.ledger, same]
  | retireSqPipelinedLoop jetty _ existing outcome =>
      have same := base.lane_jetty id existing
      have mode : config.pipelinedCompletionDma = true := by
        have mode := regular.mode
        simp at mode
        exact mode.1
      cases outcome with
      | stopped => exact (Ledger.Step.same _).to (by simp [Lane.ledger, same])
      | published next found ready =>
          refine (Ledger.Step.publishNext _ next (cqeCall jetty.context id next.start) mode
            (by simpa [Lane.ledger, same] using found) ready ⟨rfl, rfl, rfl, rfl, rfl, rfl⟩).to ?_
          have enabled : next.start.enabled = next.enabled := rfl
          have request : next.start.request = next.request := rfl
          unfold publishSq SqCompletion.verdict SqCompletion.submission
          rw [enabled, request]
          split <;> simp [Lane.ledger, same]
  | finishKept entry =>
      have serial : config.pipelinedCompletionDma = false := by
        have mode := regular.mode
        simp at mode
        exact mode.1
      refine (Ledger.Step.keep _ entry
        (bag Task.finisher (base.lane id).tasks + bag Callback.finisher (base.lane id).calls)
        serial (by simp [Lane.ledger])).to ?_
      simp [Lane.ledger]
  | finishPopped entry jetty existing =>
      have same := base.lane_jetty id existing
      have serial : config.pipelinedCompletionDma = false := by
        have mode := regular.mode
        simp at mode
        exact mode.1
      refine (Ledger.Step.pop _ entry
        (bag Task.finisher (base.lane id).tasks + bag Callback.finisher (base.lane id).calls)
        serial (by simp [Lane.ledger])).to ?_
      simp [Lane.ledger, same, SqPipeline.pop, QueueContext.depth, -List.map_take]
  | finishSqPipelined entry ok jetty _ existing outcome =>
      have same := base.lane_jetty id existing
      have mode : config.pipelinedCompletionDma = true := by
        have mode := regular.mode
        simp at mode
        exact mode.1
      cases outcome with
      | broken reason =>
          refine (Ledger.Step.abort _ entry ok
            (bag Task.finisher (base.lane id).tasks + bag Callback.finisher (base.lane id).calls)
            mode (by simp [Lane.ledger]) (by simpa [Lane.ledger, same] using reason)).to ?_
          simp [Lane.ledger, same]
      | retired current marked good found started waiting marking =>
          subst good
          refine (Ledger.Step.retire _ entry current marked
            (bag Task.finisher (base.lane id).tasks + bag Callback.finisher (base.lane id).calls)
            mode (by simp [Lane.ledger]) (by simpa [Lane.ledger, same] using found) started waiting
            (by simpa [Lane.ledger, same] using marking)).to ?_
          simp [Lane.ledger, same, SqPipeline.retire, QueueContext.depth]

theorem Called.ledger {config : Config} {base after : State} {ok : Bool} {bytes : Bytes}
    {id : Nat} {callback : Callback}
    (called : Called config base ok bytes id callback after)
    (sent : ∀ request requestId, callback = .payloadSent id request requestId →
      (requestId = 0 ↔ request.opcode ≠ 3) ∧
        ∀ pending ∈ base.pendingRma, pending.requestId = requestId →
          pending.jettyId = id ∧ pending.request = request)
    {tardy lossy : Prop}
    (late : ∀ request requestId, callback = .payloadSent id request requestId → ok = false →
      requestId ≠ 0 → base.findPending requestId = none → tardy) :
    Ledger.Step config.pipelinedCompletionDma id tardy lossy
      (Lane.ledger { base.lane id with calls := callback :: (base.lane id).calls })
      (after.lane id).ledger := by
  cases called with
  | absent callback missing =>
      have blank := base.lane_jetty_none id missing
      refine (Ledger.Step.vanish _ (bag Task.target (base.lane id).tasks)
        (bag Task.demand (base.lane id).tasks + bag Callback.demand (base.lane id).calls)
        (bag Task.finisher (base.lane id).tasks + bag Callback.finisher (base.lane id).calls)
        (bag Task.owner (base.lane id).tasks + bag Callback.owner (base.lane id).calls +
          bag (fun pending => some pending.request) (base.lane id).pending)
        ?_ ?_ (le_refl _) ?_ ?_ ?_).to ?_
      · simp [Lane.ledger, blank]
      · simp [Lane.ledger, blank]
      · simp only [Lane.ledger, bag_cons]
        exact add_le_add_right (Multiset.le_add_left _ _) _
      · simp only [Lane.ledger, bag_cons]
        exact add_le_add_right (Multiset.le_add_left _ _) _
      · simp only [Lane.ledger, bag_cons, blank, Lane.pipe, Jetty.blank_pipe, bag_nil, add_zero]
        exact add_le_add_left (add_le_add_right (Multiset.le_add_left _ _) _) _
      · simp [Lane.ledger, blank]
  | prefetch start count jetty _ existing outcome =>
      have same := base.lane_jetty id existing
      cases outcome <;>
        exact (Ledger.Step.same _).to
          (by simp [Lane.ledger, same, SqPipeline.prefetched, QueueContext.depth])
  | continuation raw remaining nextSlot contiguous jetty _ existing outcome =>
      have same := base.lane_jetty id existing
      cases outcome with
      | failed =>
          refine (Ledger.Step.release _ (raw.length / wqebbBytes + max remaining contiguous)
            (bag Task.demand (base.lane id).tasks + bag Callback.demand (base.lane id).calls)
            (by simp [Lane.ledger])).to ?_
          simp [Lane.ledger, same, Jetty.fail, Jetty.release, QueueContext.depth]
      | arrived good size =>
          have blocks : (raw.length + bytes.length) / wqebbBytes + (remaining - contiguous) =
              raw.length / wqebbBytes + max remaining contiguous := by
            rw [size, wqebbBytes]
            omega
          exact (Ledger.Step.same _).to (by simp [Lane.ledger, same, blocks])
  | writePayload position expected jetty existing =>
      have same := base.lane_jetty id existing
      have requests : bag (fun prepared : PreparedWrite => some prepared.request)
          (jetty.pipe.preparedWrites.map fun prepared =>
            if prepared.request.position = position then prepared.arrive expected ok bytes
            else prepared) =
          bag (fun prepared => some prepared.request) jetty.pipe.preparedWrites := by
        refine bag_map ?_ _
        intro prepared
        split
        · unfold PreparedWrite.arrive
          split <;> rfl
        · rfl
      exact (Ledger.Step.same _).to (by simp [Lane.ledger, same, requests])
  | sendPayload raw expected jetty _ existing outcome =>
      have same := base.lane_jetty id existing
      cases outcome with
      | failed =>
          refine (Ledger.Step.release _ (SqWqe.wqebbCount raw)
            (bag Task.demand (base.lane id).tasks + bag Callback.demand (base.lane id).calls)
            (by simp [Lane.ledger])).to ?_
          simp [Lane.ledger, same, Jetty.fail, Jetty.release, QueueContext.depth]
      | arrived => exact (Ledger.Step.same _).to (by simp [Lane.ledger, same])
  | sendFailed request requestId bad =>
      obtain ⟨_, own⟩ := sent request requestId rfl
      by_cases numbered : requestId = 0
      · rw [if_neg (by simpa using numbered)]
        exact (Ledger.Step.same _).to (by simp [Lane.ledger, numbered])
      · rw [if_pos numbered]
        cases found : base.findPending requestId with
        | none =>
            refine (Ledger.Step.late _ request (late request requestId rfl bad numbered found)).to ?_
            have absent : base.pendingRma.eraseP (·.requestId == requestId) = base.pendingRma :=
              List.eraseP_of_forall_not (by simpa [State.findPending] using found)
            have lane : (base.erasePending requestId).lane id = base.lane id := by
              simp [State.lane, State.erasePending, absent]
            simp [Lane.ledger, lane, numbered]
        | some pending =>
            obtain rfl := findPending_requestId found
            obtain ⟨earlier, later, shape, erase, _⟩ := State.findPending_split found
            obtain ⟨owner, same⟩ := own pending (by simp [shape]) rfl
            have lane : (base.erasePending pending.requestId).lane id =
                { base.lane id with
                  pending := (earlier ++ later).filter fun entry => entry.jettyId == id } := by
              rw [← erase]
              rfl
            have pendings : (base.lane id).pending =
                (earlier ++ pending :: later).filter fun entry => entry.jettyId == id := by
              rw [← shape]
              rfl
            exact (Ledger.Step.same _).to
              (by simp [Lane.ledger, lane, pendings, owner, same, numbered])
  | writeSent request requestId good opcode =>
      have numbered : requestId ≠ 0 := by
        intro zero
        exact ((sent request requestId rfl).1.mp zero) opcode
      exact (Ledger.Step.same _).to (by simp [Lane.ledger, numbered])
  | sendDone request requestId good opcode =>
      obtain rfl : requestId = 0 := (sent request requestId rfl).1.mpr opcode
      exact (Ledger.Step.same _).to (by simp [Lane.ledger])
  | cqe entry =>
      refine (Ledger.Step.report _ entry ok
        (bag Task.finisher (base.lane id).tasks + bag Callback.finisher (base.lane id).calls)
        (by simp [Lane.ledger])).to ?_
      split <;> simp [Lane.ledger]

/-- Every action on a lane is a step of its ledger. -/
theorem Acts.ledger {config : Config} {id : Nat} {state after : State} {event : Event}
    (acts : Acts config id state event after) (matched : state.Matched)
    (locked : (state.lane id).Locked) (regular : (state.lane id).Regular config)
    (stock : (state.lane id).stock.Sound fun _ block => block.length = wqebbBytes)
    (staged : (state.lane id).staging.Sound) :
    Ledger.Step config.pipelinedCompletionDma id (state.tardy id event = true)
      (state.lossy id event = true) (state.lane id).ledger (after.lane id).ledger := by
  cases acts with
  | task base task _ before own calm ran =>
      subst before
      refine ran.ledger own locked regular stock staged matched.positive ?_
      rintro raw payload request rfl reason
      simpa [State.lossy] using reason
  | callback index ok bytes callback calls base _ own calm before chosen held called =>
      have known : callback ∈ state.outstanding := by
        rw [before]
        exact List.mem_of_getElem? chosen
      have requests : state.pendingRma = base.pendingRma := by rw [before]; rfl
      have lane : (state.lane id).ledger =
          Lane.ledger { base.lane id with calls := callback :: (base.lane id).calls } := by
        have order := held.filter (Callback.on id)
        rw [List.filter_cons_of_pos own] at order
        rw [before, State.lane_holding]
        unfold Lane.ledger
        simp only [bag_perm order]
        rfl
      rw [lane]
      refine called.ledger ?_ ?_
      · rintro request requestId rfl
        refine ⟨matched.numbered id request requestId known, ?_⟩
        rw [← requests]
        exact (matched.sent id request requestId known).2
      · rintro request requestId rfl rfl numbered missing
        have fired : state.outstanding[index]? = some (.payloadSent id request requestId) := by
          rw [before]
          exact chosen
        have gone : state.findPending requestId = none := by
          unfold State.findPending at missing ⊢
          rwa [requests]
        simp [State.tardy, fired, gone, numbered]
  | progressed _ _ pending progress earlier later observed calm held owner request silent lane =>
      have quiet : gather Observation.entered observed = [] := by
        apply gather_eq_nil.mpr
        intro observation membership
        obtain ⟨token, address, length, rfl⟩ := silent observation membership
        rfl
      rw [lane]
      exact (Ledger.Step.same _).to (by simp [Lane.ledger, held, request, quiet])
  | finished _ _ pending earlier later status calm held lane =>
      rw [lane]
      exact (Ledger.Step.same _).to (by simp [Lane.ledger, held])
  | doorbell producer calm => exact (Ledger.Step.same _).to (by simp [Lane.ledger])
  | direct offset data jetty _ calm existing outcome =>
      have same := state.lane_jetty id existing
      cases outcome <;>
        exact (Ledger.Step.same _).to
          (by simp [Lane.ledger, same, Jetty.pipe, QueueContext.depth])
  | created context jetty calm missing fresh =>
      have consumer : Jetty.blank.context.consumer = 0 := rfl
      have target : Jetty.blank.context.targetProducer = 0 := rfl
      rw [State.lane_setJetty]
      refine (Ledger.Step.create _ jetty.context.sqShift (by simp [Lane.ledger, missing])
        (by simp [Lane.ledger, missing, consumer, target])).to ?_
      simp [Lane.ledger, missing, fresh.pipe, fresh.consumer, fresh.targetProducer, consumer,
        target, QueueContext.depth]

section Runs

variable {config : Config} {guard : State → Event → State → Prop} {state next : State}
  {event : Event}

/-- A step of a run leaves a lane alone or is a step of its ledger. -/
theorem ledger_step (reached : Reaches (step config) guard (State.initial config) state)
    (taken : step config state event = some next) (id : Nat) :
    next.lane id = state.lane id ∨
      Ledger.Step config.pipelinedCompletionDma id (state.tardy id event = true)
        (state.lossy id event = true) (state.lane id).ledger (next.lane id).ledger :=
  ((step_acts (settled_of_reaches reached) taken).2 id).imp_right fun acts =>
    acts.ledger (settled_of_reaches reached).matched (locked_of_reaches reached id)
      (regular_of_reaches reached id) (stocked_of_reaches reached id)
      (staged_of_reaches reached id)

/-- A property of ledgers that every step preserves holds along every run. -/
theorem ledger_of_reaches (id : Nat) (Good : Ledger → Prop)
    (reached : Reaches (step config) guard (State.initial config) state)
    (initial : Good (Lane.ledger ⟨.blank, [], [], [], []⟩))
    (preserved : ∀ before event after,
      Reaches (step config) guard (State.initial config) before →
      guard before event after → Good (before.lane id).ledger →
      Ledger.Step config.pipelinedCompletionDma id (before.tardy id event = true)
        (before.lossy id event = true) (before.lane id).ledger (after.lane id).ledger →
      Good (after.lane id).ledger) :
    Good (state.lane id).ledger := by
  refine reached.induction_on (fun state => Good (state.lane id).ledger) initial ?_
  intro before event after earlier good taken allowed
  rcases ledger_step earlier taken id with unchanged | stepped
  · rwa [unchanged]
  · exact preserved before event after earlier allowed good stepped

end Runs

end Udma.Sq
