import Udma.Collections.Tally
import Udma.Sq.Reach

/-!
# The table of RMA requests

A journal of the run keeps, for one request number, which parts of its replies were
accepted, how their host writes ended, whether an error frame came, and how the
request ended.  `RequestMove` lists what a step can do to one request.
-/

namespace Udma.Sq

open Udma.Abi Udma.Arithmetic Udma.Collections Udma.Transition

/-! ## The journal -/

/-- Part of a transfer that was accepted. -/
structure Part where
  taSsn : Nat
  first : Nat
  last : Nat
  deriving DecidableEq, Repr

def Part.range (part : Part) : Nat × Nat := (part.first, part.last)

def Part.length (part : Part) : Nat := part.last - part.first

def Reply.part (reply : Reply) : Part :=
  ⟨reply.taSsn, reply.transactionOffset, reply.transactionOffset + reply.transferLength⟩

/-- The end of the host write of one part. -/
structure Storage where
  taSsn : Nat
  length : Nat
  ok : Bool
  deriving DecidableEq, Repr

structure Journal where
  request : Option SqRequest := none
  accepted : List Part := []
  stored : List Storage := []
  refused : Bool := false
  /-- The statuses with which `CompleteSq` was called for the request. -/
  ended : List Nat := []
  deriving DecidableEq, Repr

/-- The place of a reply among the accepted parts, if it does not overlap them. -/
def PendingRma.fits (pending : PendingRma) (reply : Reply) : Option (List (Nat × Nat)) :=
  insertRange pending.responseRanges reply.transactionOffset
    (reply.transactionOffset + reply.transferLength)

/-- The tests a reply passes before any of its data counts. -/
def PendingRma.admits (pending : PendingRma) (reply : Reply) : Bool :=
  match reply.operation with
  | .writeAck =>
      decide (pending.request.opcode = 3) && replyInRange pending reply pending.completedBytes &&
        (pending.fits reply).isSome
  | .readResponse =>
      decide (pending.request.opcode = 6) && !pending.failed &&
        decide (reply.bytes.length = reply.transferLength) &&
        replyInRange pending reply pending.acceptedBytes &&
        !decide (2 ^ 64 - 1 - pending.localAddress < pending.request.byteCount - 1) &&
        (pending.fits reply).isSome
  | .rmaError => false

def State.accepts (state : State) (number : Nat) : Event → List Part
  | .receive reply =>
      if reply.requestId = number then
        match state.findPending number with
        | some pending => if pending.admits reply then [reply.part] else []
        | none => []
      else []
  | _ => []

/-- The outstanding host write of a part of that request. -/
def Callback.responseTo (number : Nat) : Callback → Option (Nat × Nat)
  | .response requestId taSsn transferLength =>
      if requestId = number then some (taSsn, transferLength) else none
  | _ => none

/-- TA SSN and length of the host writes of the request that have not ended. -/
def State.responses (state : State) (number : Nat) : List (Nat × Nat) :=
  gather (Callback.responseTo number) state.outstanding

def State.stores (state : State) (number : Nat) : Event → List Storage
  | .fire index ok _ =>
      match state.outstanding[index]? with
      | some (.response requestId taSsn transferLength) =>
          if requestId = number then [⟨taSsn, transferLength, ok⟩] else []
      | _ => []
  | _ => []

/-- An error frame for an outstanding request arrives. -/
def State.refuses (state : State) (number : Nat) : Event → Bool
  | .receive reply =>
      decide (reply.operation = .rmaError) && decide (reply.requestId = number) &&
        (state.findPending number).isSome
  | _ => false

/-- The status of the `CompleteSq` call that a step makes when it takes the request out of
`pending_rma_`. -/
def State.ends (before : State) (number : Nat) (after : State) : List Nat :=
  if (before.findPending number).isSome && (after.findPending number).isNone then
    match after.stack with
    | .completeSq _ _ status _ :: _ => [status]
    | _ => []
  else []

def Journal.record (number : Nat) (before : State) (event : Event) (after : State)
    (journal : Journal) : Journal where
  request := journal.request <|> (after.findPending number).map (·.request)
  accepted := journal.accepted ++ before.accepts number event
  stored := journal.stored ++ before.stores number event
  refused := journal.refused || before.refuses number event
  ended := journal.ended ++ before.ends number after

/-- The send callback of the request does not report failure. -/
def Sent (number : Nat) (before : State) (event : Event) (_after : State) : Prop :=
  match event with
  | .fire index false _ =>
      match before.outstanding[index]? with
      | some (.readSent requestId) => requestId ≠ number
      | some (.payloadSent _ _ requestId) => requestId ≠ number
      | _ => True
  | _ => True

instance (number : Nat) (before : State) (event : Event) (after : State) :
    Decidable (Sent number before event after) := by
  unfold Sent
  split
  · split <;> infer_instance
  · infer_instance

/-! ## What a frame does -/

theorem receive_rejected {state : State} {reply : Reply}
    (rejected : ∀ pending ∈ state.findPending reply.requestId, pending.admits reply = false)
    (frame : reply.operation ≠ .rmaError) : receive state reply = state := by
  unfold receive
  cases kind : reply.operation with
  | rmaError => exact absurd kind frame
  | writeAck =>
      dsimp only
      unfold receiveWriteAck
      split
      next => rfl
      next pending found =>
        have refused := rejected pending found
        simp only [PendingRma.admits, kind, PendingRma.fits] at refused
        split
        next => rfl
        next opcode =>
          split
          next => rfl
          next inRange =>
            split
            next => rfl
            next ranges fits =>
              simp only [ne_eq, Decidable.not_not] at opcode
              simp [opcode, fits] at refused inRange
              simp [refused] at inRange
  | readResponse =>
      dsimp only
      unfold receiveReadResponse
      split
      next => rfl
      next pending found =>
        have refused := rejected pending found
        simp only [PendingRma.admits, kind, PendingRma.fits] at refused
        split
        next => rfl
        next plain =>
          split
          next => rfl
          next inRange =>
            split
            next => rfl
            next local_ =>
              split
              next => rfl
              next ranges fits =>
                simp only [not_or, ne_eq, Decidable.not_not] at plain
                simp_all

/-! ## The table of requests -/

section Table

variable {state : State} {number : Nat} {pending progress : PendingRma}

theorem find?_markFirst_other {Alpha : Type} {test other : Alpha → Bool} {update : Alpha → Alpha}
    (skips : ∀ item, test item = true → other item = false)
    (unseen : ∀ item, test item = true → other (update item) = false) (list : List Alpha) :
    (markFirst test update list).find? other = list.find? other := by
  induction list with
  | nil => rfl
  | cons head rest inductionHypothesis =>
      unfold markFirst
      split
      next hit => simp [skips head hit, unseen head hit]
      next => simp [List.find?_cons, inductionHypothesis]

theorem find?_eraseP_other {Alpha : Type} {test other : Alpha → Bool}
    (skips : ∀ item, test item = true → other item = false) (list : List Alpha) :
    (list.eraseP test).find? other = list.find? other := by
  induction list with
  | nil => rfl
  | cons head rest inductionHypothesis =>
      cases hit : test head with
      | true => simp [hit, skips head hit]
      | false => simp [hit, List.find?_cons, inductionHypothesis]

theorem findPending_setPending (found : state.findPending number = some pending)
    (same : progress.requestId = number) :
    (state.setPending progress).findPending number = some progress := by
  obtain ⟨earlier, later, shape, skipped, hit⟩ := split_of_find found
  simp only [State.findPending, State.setPending_pendingRma, shape, same]
  rw [markFirst_append skipped hit, List.find?_append]
  have none : earlier.find? (fun pending => pending.requestId == number) = none :=
    List.find?_eq_none.mpr fun item inside => by simpa using skipped item inside
  simp [none, same]

theorem findPending_setPending_other (different : progress.requestId ≠ number) :
    (state.setPending progress).findPending number = state.findPending number := by
  refine find?_markFirst_other ?_ ?_ _
  · intro item hit
    rw [beq_iff_eq] at hit
    simp [hit, different]
  · simp [different]

theorem findPending_erasePending_other {other : Nat} (different : other ≠ number) :
    (state.erasePending other).findPending number = state.findPending number := by
  refine find?_eraseP_other ?_ _
  intro item hit
  rw [beq_iff_eq] at hit
  simp [hit, different]

/-- Request numbers are not used twice. -/
def State.Numbered (state : State) : Prop := (state.pendingRma.map (·.requestId)).Nodup

theorem findPending_erasePending (numbered : state.Numbered)
    (found : state.findPending number = some pending) :
    (state.erasePending number).findPending number = none := by
  obtain ⟨earlier, later, shape, skipped, hit⟩ := split_of_find found
  simp only [State.findPending, State.erasePending_pendingRma, shape]
  rw [eraseP_append skipped hit, List.find?_eq_none]
  have distinct := numbered
  unfold State.Numbered at distinct
  rw [shape, (List.perm_middle.map _).nodup_iff, List.map_cons, List.nodup_cons] at distinct
  rw [beq_iff_eq] at hit
  intro item inside same
  rw [beq_iff_eq] at same
  refine distinct.1 ?_
  rw [hit, ← same]
  exact List.mem_map_of_mem inside

end Table

/-- What an activation can do to the table of requests. -/
inductive TableMove (before after : State) : Prop where
  | kept (same : after.pendingRma = before.pendingRma)
      (drawn : after.nextRmaRequest = before.nextRmaRequest)
  | added (pending : PendingRma) (longer : after.pendingRma = before.pendingRma ++ [pending])
      (number : pending.requestId = before.nextRmaRequest)
      (drawn : after.nextRmaRequest = before.nextRmaRequest + 1)
      (kind : pending.request.opcode = 3 ∨ pending.request.opcode = 6)
      (untouched : pending.Untouched)

theorem Ran.table {config : Config} {base after : State} {id : Nat} {task : Task}
    (ran : Ran config base id task after) : TableMove base after := by
  cases ran with
  | absent | finishKept | completeAbsent | continueLast | continueRead | releaseSqFetch
  | finishPopped => exact .kept rfl rfl
  | processSq producer direct jetty _ existing outcome => cases outcome <;> exact .kept rfl rfl
  | resumeSq jetty _ existing outcome => cases outcome <;> exact .kept rfl rfl
  | processSqLoop producer jetty _ existing outcome => cases outcome <;> exact .kept rfl rfl
  | fillSqCache producer targetProducer jetty _ existing outcome =>
      cases outcome <;> exact .kept rfl rfl
  | executeSqHead producer targetProducer jetty _ existing outcome =>
      cases outcome <;> exact .kept rfl rfl
  | handleSqWqe raw jetty _ existing outcome =>
      cases outcome with
      | read route frame pending admitted opcode tpn port owner number request untouched =>
          refine .added pending rfl number rfl (.inr ?_) untouched
          rw [request]
          exact opcode
      | _ => exact .kept rfl rfl
  | drainPreparedWrites jetty _ existing outcome => cases outcome <;> exact .kept rfl rfl
  | submitSqPayload raw payload reserved jetty _ existing outcome =>
      cases outcome with
      | freshWrite route frame pending opcode sound found tpn port owner number request untouched =>
          refine .added pending rfl number rfl (.inl ?_) untouched
          rw [request]
          exact opcode
      | heldWrite held route frame pending opcode found tpn port owner number request untouched =>
          refine .added pending rfl number rfl (.inl ?_) untouched
          rw [request]
          exact opcode
      | _ => exact .kept rfl rfl
  | completeSq request status substatus jetty _ existing outcome =>
      cases outcome <;> exact .kept rfl rfl
  | retireSq jetty _ existing outcome => cases outcome <;> exact .kept rfl rfl
  | retireSqLoop jetty _ existing outcome =>
      cases outcome with
      | stopped => exact .kept rfl rfl
      | published =>
          unfold publishSq
          split <;> exact .kept rfl rfl
  | retireSqPipelinedLoop jetty _ existing outcome =>
      cases outcome with
      | stopped => exact .kept rfl rfl
      | published =>
          unfold publishSq
          split <;> exact .kept rfl rfl
  | finishSqPipelined entry ok jetty _ existing outcome =>
      cases outcome <;> exact .kept rfl rfl

theorem responses_append {before after : State} {callback : Callback} {number : Nat}
    (calls : after.outstanding = before.outstanding ++ [callback])
    (other : callback.responseTo number = none) :
    after.responses number = before.responses number := by
  unfold State.responses
  rw [calls, gather_append, gather_cons, other]
  simp

/-- No activation issues the host write of a reply. -/
theorem Ran.responses {config : Config} {base after : State} {id : Nat} {task : Task}
    (ran : Ran config base id task after) (number : Nat) :
    after.responses number = base.responses number := by
  cases ran with
  | absent | finishKept | completeAbsent | continueLast | releaseSqFetch | finishPopped => rfl
  | continueRead => exact responses_append rfl rfl
  | processSq producer direct jetty _ existing outcome => cases outcome <;> rfl
  | resumeSq jetty _ existing outcome => cases outcome <;> rfl
  | processSqLoop producer jetty _ existing outcome => cases outcome <;> rfl
  | fillSqCache producer targetProducer jetty _ existing outcome =>
      cases outcome with
      | fetched => exact responses_append rfl rfl
      | _ => rfl
  | executeSqHead producer targetProducer jetty _ existing outcome => cases outcome <;> rfl
  | handleSqWqe raw jetty _ existing outcome =>
      cases outcome with
      | read | prepared | reading => exact responses_append rfl rfl
      | _ => rfl
  | drainPreparedWrites jetty _ existing outcome => cases outcome <;> rfl
  | submitSqPayload raw payload reserved jetty _ existing outcome =>
      cases outcome with
      | released | lost => rfl
      | _ => exact responses_append rfl rfl
  | completeSq request status substatus jetty _ existing outcome => cases outcome <;> rfl
  | retireSq jetty _ existing outcome => cases outcome <;> rfl
  | retireSqLoop jetty _ existing outcome =>
      cases outcome with
      | stopped => rfl
      | published =>
          unfold publishSq
          split
          · exact responses_append rfl rfl
          · rfl
  | retireSqPipelinedLoop jetty _ existing outcome =>
      cases outcome with
      | stopped => rfl
      | published =>
          unfold publishSq
          split
          · exact responses_append rfl rfl
          · rfl
  | finishSqPipelined entry ok jetty _ existing outcome => cases outcome <;> rfl

/-! ## What a step does to one request -/

/-- The record after the host write of a part has ended. -/
def PendingRma.storing (pending : PendingRma) (taSsn length : Nat) (ok : Bool) : PendingRma :=
  let drained := { pending with responseDma := pending.responseDma - 1 }
  if ok then
    { drained with
      completedTassns := drained.completedTassns.map fun known =>
        if known.1 == taSsn then (taSsn, true) else known
      completedBytes := drained.completedBytes + length }
  else { drained with failed := true }

/-- The event is no reply to the request and no end of one of its host writes. -/
structure State.Unanswered (state : State) (number : Nat) (event : Event) : Prop where
  accepts : state.accepts number event = []
  stores : state.stores number event = []
  refuses : state.refuses number event = false

inductive RequestMove (number : Nat) (before : State) : Event → State → Prop where
  | idle (event : Event) (after : State)
      (found : after.findPending number = before.findPending number)
      (responses : after.responses number = before.responses number)
      (drawn : number < before.nextRmaRequest ↔ number < after.nextRmaRequest)
      (quiet : before.Unanswered number event) : RequestMove number before event after
  | opened (event : Event) (after : State) (pending : PendingRma)
      (level : before.nextRmaRequest = number) (drawn : after.nextRmaRequest = number + 1)
      (found : after.findPending number = some pending)
      (kind : pending.request.opcode = 3 ∨ pending.request.opcode = 6)
      (untouched : pending.Untouched)
      (responses : after.responses number = before.responses number)
      (quiet : before.Unanswered number event) : RequestMove number before event after
  | acked (reply : Reply) (after : State) (pending : PendingRma) (ranges : List (Nat × Nat))
      (own : reply.requestId = number) (found : before.findPending number = some pending)
      (operation : reply.operation = .writeAck) (admitted : pending.admits reply = true)
      (fits : pending.fits reply = some ranges)
      (short : pending.completedBytes + reply.transferLength ≠ pending.request.byteCount)
      (next : after.findPending number = some { pending with
        responseRanges := ranges
        completedTassns := pending.completedTassns ++ [(reply.taSsn, true)]
        completedBytes := pending.completedBytes + reply.transferLength })
      (responses : after.responses number = before.responses number)
      (drawn : after.nextRmaRequest = before.nextRmaRequest) :
      RequestMove number before (.receive reply) after
  | ackedLast (reply : Reply) (after : State) (pending : PendingRma) (ranges : List (Nat × Nat))
      (own : reply.requestId = number) (found : before.findPending number = some pending)
      (operation : reply.operation = .writeAck) (admitted : pending.admits reply = true)
      (fits : pending.fits reply = some ranges)
      (whole : pending.completedBytes + reply.transferLength = pending.request.byteCount)
      (gone : after.findPending number = none)
      (ends : before.ends number after = [0])
      (responses : after.responses number = before.responses number)
      (drawn : after.nextRmaRequest = before.nextRmaRequest) :
      RequestMove number before (.receive reply) after
  | responded (reply : Reply) (after : State) (pending : PendingRma) (ranges : List (Nat × Nat))
      (own : reply.requestId = number) (found : before.findPending number = some pending)
      (operation : reply.operation = .readResponse) (admitted : pending.admits reply = true)
      (fits : pending.fits reply = some ranges)
      (next : after.findPending number = some { pending with
        responseRanges := ranges
        completedTassns := pending.completedTassns ++ [(reply.taSsn, false)]
        acceptedBytes := pending.acceptedBytes + reply.transferLength
        responseDma := pending.responseDma + 1 })
      (responses : after.responses number =
        before.responses number ++ [(reply.taSsn, reply.transferLength)])
      (drawn : after.nextRmaRequest = before.nextRmaRequest) :
      RequestMove number before (.receive reply) after
  | refused (reply : Reply) (after : State) (pending : PendingRma)
      (own : reply.requestId = number) (found : before.findPending number = some pending)
      (operation : reply.operation = .rmaError) (busy : pending.responseDma ≠ 0)
      (next : after.findPending number = some { pending with failed := true })
      (responses : after.responses number = before.responses number)
      (drawn : after.nextRmaRequest = before.nextRmaRequest) :
      RequestMove number before (.receive reply) after
  | refusedLast (reply : Reply) (after : State) (pending : PendingRma)
      (own : reply.requestId = number) (found : before.findPending number = some pending)
      (operation : reply.operation = .rmaError) (idle : pending.responseDma = 0)
      (gone : after.findPending number = none)
      (ends : before.ends number after = [5])
      (responses : after.responses number = before.responses number)
      (drawn : after.nextRmaRequest = before.nextRmaRequest) :
      RequestMove number before (.receive reply) after
  | strayed (index : Nat) (ok : Bool) (bytes : Bytes) (after : State) (taSsn length : Nat)
      (responses : (before.responses number).Perm ((taSsn, length) :: after.responses number))
      (missing : before.findPending number = none) :
      RequestMove number before (.fire index ok bytes) after
  | stored (index : Nat) (ok : Bool) (bytes : Bytes) (after : State) (taSsn length : Nat)
      (pending progress : PendingRma)
      (responses : (before.responses number).Perm ((taSsn, length) :: after.responses number))
      (found : before.findPending number = some pending)
      (stores : before.stores number (.fire index ok bytes) = [⟨taSsn, length, ok⟩])
      (progressed : progress = pending.storing taSsn length ok)
      (more : progress.responseDma ≠ 0 ∨
        (progress.failed = false ∧ progress.completedBytes ≠ progress.request.byteCount))
      (next : after.findPending number = some progress)
      (drawn : after.nextRmaRequest = before.nextRmaRequest) :
      RequestMove number before (.fire index ok bytes) after
  | storedLast (index : Nat) (ok : Bool) (bytes : Bytes) (after : State) (taSsn length : Nat)
      (pending progress : PendingRma)
      (responses : (before.responses number).Perm ((taSsn, length) :: after.responses number))
      (found : before.findPending number = some pending)
      (stores : before.stores number (.fire index ok bytes) = [⟨taSsn, length, ok⟩])
      (progressed : progress = pending.storing taSsn length ok)
      (idle : progress.responseDma = 0)
      (whole : progress.failed = true ∨ progress.completedBytes = progress.request.byteCount)
      (gone : after.findPending number = none)
      (ends : before.ends number after = [if progress.failed then 5 else 0])
      (drawn : after.nextRmaRequest = before.nextRmaRequest) :
      RequestMove number before (.fire index ok bytes) after

/-- The step leaves the request and its host writes alone. -/
structure State.Leaves (before : State) (number : Nat) (after : State) : Prop where
  found : after.findPending number = before.findPending number
  responses : after.responses number = before.responses number
  drawn : after.nextRmaRequest = before.nextRmaRequest

section Other

variable {state : State} {number other : Nat} (different : other ≠ number)
include different

theorem setPending_leaves {progress : PendingRma} (own : progress.requestId = other) :
    state.Leaves number (state.setPending progress) :=
  ⟨findPending_setPending_other (own ▸ different), rfl, rfl⟩

theorem erasePending_leaves (tasks : List Task) :
    state.Leaves number ((state.erasePending other).push tasks) :=
  ⟨findPending_erasePending_other different, rfl, rfl⟩

theorem failPending_leaves {pending : PendingRma} (own : pending.requestId = other)
    (status : Nat) : state.Leaves number (failPending state pending status) := by
  unfold failPending
  split
  · exact setPending_leaves different own
  · rw [own]
    exact erasePending_leaves different _

theorem receive_leaves {reply : Reply} (own : reply.requestId = other) :
    state.Leaves number (receive state reply) := by
  have same : state.Leaves number state := ⟨rfl, rfl, rfl⟩
  unfold receive
  split
  · unfold receiveWriteAck
    split
    next => exact same
    next pending found =>
      have ownPending := (findPending_requestId found).trans own
      split
      · exact same
      · split
        · exact same
        · split
          · exact same
          · dsimp only
            split
            · exact setPending_leaves different ownPending
            · rw [own]
              exact erasePending_leaves different _
  · unfold receiveReadResponse
    split
    next => exact same
    next pending found =>
      have ownPending := (findPending_requestId found).trans own
      split
      · exact same
      · split
        · exact same
        · split
          · exact same
          · split
            · exact same
            · refine ⟨findPending_setPending_other (by rw [ownPending]; exact different), ?_, rfl⟩
              refine responses_append rfl ?_
              simp [Callback.responseTo, own, different]
  · split
    next => exact same
    next pending found =>
      exact failPending_leaves different ((findPending_requestId found).trans own) 5

theorem readSent_leaves (state : State) (ok : Bool) :
    state.Leaves number (readSent state other ok) := by
  have same : state.Leaves number state := ⟨rfl, rfl, rfl⟩
  unfold readSent
  split
  · exact same
  · split
    next => exact same
    next pending found => exact failPending_leaves different (findPending_requestId found) 1

theorem responseStored_leaves (state : State) (taSsn length : Nat) (ok : Bool) :
    state.Leaves number (responseStored state other taSsn length ok) := by
  unfold responseStored
  split
  next => exact ⟨rfl, rfl, rfl⟩
  next pending found =>
    have own := findPending_requestId found
    cases ok with
    | true =>
        simp only [↓reduceIte]
        split
        · exact setPending_leaves different own
        · exact erasePending_leaves different _
    | false =>
        simp only [Bool.false_eq_true, ↓reduceIte]
        split
        · exact setPending_leaves different own
        · exact erasePending_leaves different _

end Other

section Own

variable {state : State} {number : Nat} {pending : PendingRma}

theorem ends_of_gone {after : State} {who status substatus : Nat} {request : SqRequest}
    {rest : List Task} (found : state.findPending number = some pending)
    (gone : after.findPending number = none)
    (top : after.stack = .completeSq who request status substatus :: rest) :
    state.ends number after = [status] := by
  simp [State.ends, found, gone, top]

theorem receive_writeAck_eq {reply : Reply} {ranges : List (Nat × Nat)}
    (own : reply.requestId = number) (found : state.findPending number = some pending)
    (operation : reply.operation = .writeAck) (opcode : pending.request.opcode = 3)
    (inRange : replyInRange pending reply pending.completedBytes = true)
    (fits : pending.fits reply = some ranges) :
    receive state reply =
      if pending.completedBytes + reply.transferLength ≠ pending.request.byteCount then
        state.setPending { pending with
          responseRanges := ranges
          completedTassns := pending.completedTassns ++ [(reply.taSsn, true)]
          completedBytes := pending.completedBytes + reply.transferLength }
      else (state.erasePending number).push
        [.completeSq pending.jettyId pending.request 0 0] := by
  unfold PendingRma.fits at fits
  simp [receive, operation, receiveWriteAck, own, found, opcode, inRange, fits]

theorem receive_readResponse_eq {reply : Reply} {ranges : List (Nat × Nat)}
    (own : reply.requestId = number) (found : state.findPending number = some pending)
    (operation : reply.operation = .readResponse) (opcode : pending.request.opcode = 6)
    (intact : pending.failed = false) (size : reply.bytes.length = reply.transferLength)
    (inRange : replyInRange pending reply pending.acceptedBytes = true)
    (addressed : ¬ 2 ^ 64 - 1 - pending.localAddress < pending.request.byteCount - 1)
    (fits : pending.fits reply = some ranges) :
    receive state reply =
      ((state.setPending { pending with
          responseRanges := ranges
          completedTassns := pending.completedTassns ++ [(reply.taSsn, false)]
          acceptedBytes := pending.acceptedBytes + reply.transferLength
          responseDma := pending.responseDma + 1 }).emit
        [.dmaWrite pending.jettyId pending.localToken
          (pending.localAddress + reply.transactionOffset) reply.transferLength]).call
        (.response number reply.taSsn reply.transferLength) := by
  unfold PendingRma.fits at fits
  simp only [receive, operation, receiveReadResponse, own, found, opcode, intact, size, inRange,
    fits, addressed]
  simp

theorem receiveWriteAck_moves (numbered : state.Numbered) {reply : Reply}
    (own : reply.requestId = number) (found : state.findPending number = some pending)
    (operation : reply.operation = .writeAck) (admitted : pending.admits reply = true) :
    RequestMove number state (.receive reply) (receive state reply) := by
  have requestId := findPending_requestId found
  have tests := admitted
  simp only [PendingRma.admits, operation, Bool.and_eq_true, decide_eq_true_eq] at tests
  obtain ⟨⟨opcode, inRange⟩, some⟩ := tests
  obtain ⟨ranges, fits⟩ := Option.isSome_iff_exists.mp some
  have shape := receive_writeAck_eq own found operation opcode inRange fits
  rw [shape]
  split
  next short =>
    exact .acked reply _ pending ranges own found operation admitted fits short
      (findPending_setPending found requestId) rfl rfl
  next whole =>
    have gone := findPending_erasePending numbered found
    exact .ackedLast reply _ pending ranges own found operation admitted fits
      (by simpa using whole) gone (ends_of_gone found gone rfl) rfl rfl

theorem receiveReadResponse_moves {reply : Reply}
    (own : reply.requestId = number) (found : state.findPending number = some pending)
    (operation : reply.operation = .readResponse) (admitted : pending.admits reply = true) :
    RequestMove number state (.receive reply) (receive state reply) := by
  have requestId := findPending_requestId found
  have tests := admitted
  simp only [PendingRma.admits, operation, Bool.and_eq_true, decide_eq_true_eq,
    Bool.not_eq_true', decide_eq_false_iff_not] at tests
  obtain ⟨⟨⟨⟨⟨opcode, intact⟩, size⟩, inRange⟩, addressed⟩, some⟩ := tests
  obtain ⟨ranges, fits⟩ := Option.isSome_iff_exists.mp some
  have shape := receive_readResponse_eq own found operation opcode intact size inRange addressed
    fits
  rw [shape]
  refine .responded reply _ pending ranges own found operation admitted fits
    (findPending_setPending found requestId) ?_ rfl
  simp [State.responses, Callback.responseTo]

theorem receiveRmaError_moves (numbered : state.Numbered) {reply : Reply}
    (own : reply.requestId = number) (found : state.findPending number = some pending)
    (operation : reply.operation = .rmaError) :
    RequestMove number state (.receive reply) (receive state reply) := by
  have requestId := findPending_requestId found
  have shape : receive state reply = failPending state pending 5 := by
    simp [receive, operation, own, found]
  rw [shape]
  unfold failPending
  split
  next busy =>
    exact .refused reply _ pending own found operation busy
      (findPending_setPending found requestId) rfl rfl
  next idle =>
    rw [requestId]
    have gone := findPending_erasePending numbered found
    exact .refusedLast reply _ pending own found operation (by simpa using idle) gone
      (ends_of_gone found gone rfl) rfl rfl

theorem receive_moves (numbered : state.Numbered) {reply : Reply}
    (own : reply.requestId = number) :
    RequestMove number state (.receive reply) (receive state reply) := by
  cases found : state.findPending number with
  | none =>
      have same : receive state reply = state := by
        unfold receive receiveWriteAck receiveReadResponse
        rw [own, found]
        split <;> rfl
      refine .idle _ _ (by rw [same]) (by rw [same]) (by rw [same]) ?_
      refine ⟨?_, rfl, ?_⟩
      · simp [State.accepts, found]
      · simp [State.refuses, found]
  | some pending =>
      cases admitted : pending.admits reply with
      | true =>
          cases operation : reply.operation with
          | writeAck => exact receiveWriteAck_moves numbered own found operation admitted
          | readResponse => exact receiveReadResponse_moves own found operation admitted
          | rmaError => exact receiveRmaError_moves numbered own found operation
      | false =>
          by_cases operation : reply.operation = .rmaError
          · exact receiveRmaError_moves numbered own found operation
          · have same : receive state reply = state := by
              refine receive_rejected ?_ operation
              intro other inside
              rw [own, found, Option.mem_some_iff] at inside
              exact inside ▸ admitted
            refine .idle _ _ (by rw [same]) (by rw [same]) (by rw [same]) ?_
            refine ⟨?_, rfl, ?_⟩
            · simp [State.accepts, found, admitted]
            · simp [State.refuses, operation]

/-- The end of a host write, in the state without its callback. -/
theorem responseStored_eq (found : state.findPending number = some pending)
    (taSsn length : Nat) (ok : Bool) :
    responseStored state number taSsn length ok =
      if (pending.storing taSsn length ok).responseDma ≠ 0 ∨
          (¬ (pending.storing taSsn length ok).failed ∧
            (pending.storing taSsn length ok).completedBytes ≠
              (pending.storing taSsn length ok).request.byteCount) then
        state.setPending (pending.storing taSsn length ok)
      else (state.erasePending number).push
        [.completeSq (pending.storing taSsn length ok).jettyId
          (pending.storing taSsn length ok).request
          (if (pending.storing taSsn length ok).failed then 5 else 0) 0] := by
  unfold responseStored PendingRma.storing
  simp only [found]

theorem PendingRma.storing_requestId (pending : PendingRma) (taSsn length : Nat) (ok : Bool) :
    (pending.storing taSsn length ok).requestId = pending.requestId := by
  unfold storing
  cases ok <;> rfl

theorem responseStored_moves (numbered : state.Numbered) {index taSsn length : Nat} {ok : Bool}
    {bytes : Bytes}
    (chosen : state.outstanding[index]? = some (.response number taSsn length)) :
    RequestMove number state (.fire index ok bytes)
      (responseStored (state.holding (state.outstanding.eraseIdx index)) number taSsn length
        ok) := by
  have responses : (state.responses number).Perm
      ((taSsn, length) ::
        (state.holding (state.outstanding.eraseIdx index)).responses number) := by
    refine (gather_perm (outstanding_split chosen)).trans (.of_eq ?_)
    simp [State.responses, Callback.responseTo]
  have stores : state.stores number (.fire index ok bytes) = [⟨taSsn, length, ok⟩] := by
    simp [State.stores, chosen]
  cases found : state.findPending number with
  | none =>
      have same : responseStored (state.holding (state.outstanding.eraseIdx index)) number taSsn
          length ok = state.holding (state.outstanding.eraseIdx index) := by
        unfold responseStored
        rw [show (state.holding (state.outstanding.eraseIdx index)).findPending number = none
          from found]
      rw [same]
      exact .strayed index ok bytes _ taSsn length responses found
  | some pending =>
      have held : (state.holding (state.outstanding.eraseIdx index)).findPending number =
          some pending := found
      have own := (pending.storing_requestId taSsn length ok).trans (findPending_requestId found)
      rw [responseStored_eq held]
      split
      next more =>
        refine .stored index ok bytes _ taSsn length pending _ responses found stores rfl ?_
          (findPending_setPending held own) rfl
        simpa using more
      next last =>
        have same : (state.holding (state.outstanding.eraseIdx index)).Numbered := numbered
        have gone := findPending_erasePending same held
        simp only [ne_eq, not_or, Decidable.not_not, not_and_or, Bool.not_eq_true] at last
        refine .storedLast index ok bytes _ taSsn length pending _ responses found stores rfl
          last.1 ?_ gone (ends_of_gone found gone rfl) rfl
        simpa using last.2

end Own

/-- A TP, link or queue command leaves the requests alone. -/
theorem RouteOutcome.leaves {state after : State} {event : Event}
    (outcome : RouteOutcome state event after) (number : Nat) : state.Leaves number after := by
  cases outcome <;> exact ⟨rfl, rfl, rfl⟩

theorem DirectOutcome.leaves {state after : State} {who offset : Nat} {data : Bytes}
    {jetty : Jetty} (outcome : DirectOutcome state who offset data jetty after) (number : Nat) :
    state.Leaves number after := by
  cases outcome <;> exact ⟨rfl, rfl, rfl⟩

theorem TableMove.moves {number : Nat} {before after : State} {event : Event}
    (table : TableMove before after) (matched : before.Matched)
    (responses : after.responses number = before.responses number)
    (quiet : before.Unanswered number event) : RequestMove number before event after := by
  cases table with
  | kept same drawn =>
      exact .idle event after (by simp only [State.findPending, same]) responses (by rw [drawn]) quiet
  | added pending longer requestId drawn kind untouched =>
      have find : after.findPending number =
          (before.findPending number).or
            ([pending].find? fun entry => entry.requestId == number) := by
        simp only [State.findPending, longer, List.find?_append]
      by_cases own : pending.requestId = number
      · have missing : before.findPending number = none := by
          refine List.find?_eq_none.mpr ?_
          intro entry inside same
          have := (matched.drawn entry inside).2
          rw [beq_iff_eq] at same
          omega
        refine .opened event after pending (by omega) (by omega) ?_ kind untouched responses quiet
        rw [find, missing]
        simp [own]
      · refine .idle event after ?_ responses (by omega) quiet
        rw [find]
        simp [own]

theorem State.Leaves.moves {number : Nat} {before after : State} {event : Event}
    (leaves : before.Leaves number after) (quiet : before.Unanswered number event) :
    RequestMove number before event after :=
  .idle event after leaves.found leaves.responses (by rw [leaves.drawn]) quiet

/-- A callback that is not the host write of a reply is taken off. -/
theorem responses_eraseIdx {state : State} {index : Nat} {callback : Callback}
    (chosen : state.outstanding[index]? = some callback) {number : Nat}
    (other : callback.responseTo number = none) :
    (state.holding (state.outstanding.eraseIdx index)).responses number =
      state.responses number :=
  gather_eraseIdx chosen other

theorem unanswered_of_other {state : State} {index number : Nat} {ok : Bool} {bytes : Bytes}
    {callback : Callback} (chosen : state.outstanding[index]? = some callback)
    (other : callback.responseTo number = none) :
    state.Unanswered number (.fire index ok bytes) := by
  refine ⟨rfl, ?_, rfl⟩
  unfold State.stores
  dsimp only
  rw [chosen]
  cases callback with
  | response requestId taSsn length =>
      by_cases same : requestId = number
      · simp [Callback.responseTo, same] at other
      · simp [same]
  | _ => rfl

theorem Called.moves {config : Config} {state after : State} {ok : Bool} {bytes : Bytes}
    {index number who : Nat} {callback : Callback}
    (chosen : state.outstanding[index]? = some callback) (own : callback.on who = true)
    (sent : Sent number state (.fire index ok bytes) after)
    (called : Called config (state.holding (state.outstanding.eraseIdx index)) ok bytes who
      callback after) :
    RequestMove number state (.fire index ok bytes) after := by
  have other : callback.responseTo number = none := by
    cases callback with
    | response => simp at own
    | _ => rfl
  have quiet : state.Unanswered number (.fire index ok bytes) :=
    unanswered_of_other chosen other
  have erased := responses_eraseIdx chosen other
  have kept : state.Leaves number (state.holding (state.outstanding.eraseIdx index)) :=
    ⟨rfl, erased, rfl⟩
  cases called with
  | absent | writePayload | writeSent | sendDone | cqe =>
      exact State.Leaves.moves ⟨rfl, erased, rfl⟩ quiet
  | prefetch start count jetty _ existing outcome =>
      cases outcome <;> exact State.Leaves.moves ⟨rfl, erased, rfl⟩ quiet
  | continuation raw remaining nextSlot contiguous jetty _ existing outcome =>
      cases outcome <;> exact State.Leaves.moves ⟨rfl, erased, rfl⟩ quiet
  | sendPayload raw expected jetty _ existing outcome =>
      cases outcome <;> exact State.Leaves.moves ⟨rfl, erased, rfl⟩ quiet
  | sendFailed request requestId bad =>
      subst bad
      have different : requestId ≠ number := by simpa [Sent, chosen] using sent
      split
      · refine State.Leaves.moves ⟨?_, erased, rfl⟩ quiet
        exact findPending_erasePending_other different
      · exact State.Leaves.moves ⟨rfl, erased, rfl⟩ quiet

/-- Guest writes, TP and link commands and queue creation. -/
def Event.plain : Event → Bool
  | .run => false
  | .fire _ _ _ => false
  | .receive _ => false
  | _ => true

theorem Stepped.leaves {config : Config} {before after : State} {event : Event}
    (stepped : Stepped config before event after) (plain : event.plain = true) (number : Nat) :
    before.Leaves number after := by
  cases stepped with
  | returned | ran | called | answered | received => simp [Event.plain] at plain
  | doorbell | created | searched | refused => exact ⟨rfl, rfl, rfl⟩
  | direct who offset data jetty _ existing outcome => exact outcome.leaves number
  | routed _ _ outcome => exact outcome.leaves number

theorem unanswered_of_plain {event : Event} (plain : event.plain = true) (state : State)
    (number : Nat) : state.Unanswered number event := by
  cases event with
  | run | fire | receive => simp [Event.plain] at plain
  | _ => exact ⟨rfl, rfl, rfl⟩

theorem request_moves {config : Config} {number : Nat} {before after : State} {event : Event}
    (matched : before.Matched) (numbered : before.Numbered)
    (taken : step config before event = some after) (sent : Sent number before event after) :
    RequestMove number before event after := by
  have same : before.Leaves number before := ⟨rfl, rfl, rfl⟩
  cases event with
  | run =>
      have quiet : before.Unanswered number .run := ⟨rfl, rfl, rfl⟩
      cases step_stepped taken with
      | returned rest top => exact State.Leaves.moves ⟨rfl, rfl, rfl⟩ quiet
      | ran task rest who _ top own ran =>
          have table : TableMove before after := by
            cases ran.table with
            | kept same drawn => exact .kept same drawn
            | added pending longer requestId drawn kind untouched =>
                exact .added pending longer requestId drawn kind untouched
          exact table.moves matched (ran.responses number) quiet
      | routed _ _ outcome => exact (outcome.leaves number).moves quiet
      | refused => exact same.moves quiet
  | fire index ok bytes =>
      simp only [step, environment] at taken
      split at taken
      next boundary =>
        split at taken
        next => simp at taken
        next callback chosen =>
          obtain rfl := Option.some.inj taken
          rcases callback.on_exists with ⟨requestId, rfl⟩ | ⟨requestId, taSsn, length, rfl⟩ |
            ⟨who, own⟩
          · have quiet : before.Unanswered number (.fire index ok bytes) :=
              unanswered_of_other chosen rfl
            have erased : (before.holding (before.outstanding.eraseIdx index)).responses number =
                before.responses number := responses_eraseIdx chosen rfl
            cases ok with
            | true => exact State.Leaves.moves ⟨rfl, erased, rfl⟩ quiet
            | false =>
                have different : requestId ≠ number := by simpa [Sent, chosen] using sent
                obtain ⟨found, responses, drawn⟩ := readSent_leaves different
                  (before.holding (before.outstanding.eraseIdx index)) false
                exact State.Leaves.moves ⟨found, responses.trans erased, drawn⟩ quiet
          · by_cases own : requestId = number
            · subst own
              exact responseStored_moves numbered chosen
            · have other : (Callback.response requestId taSsn length).responseTo number = none := by
                simp [Callback.responseTo, own]
              have quiet : before.Unanswered number (.fire index ok bytes) :=
                unanswered_of_other chosen other
              have erased := responses_eraseIdx chosen other
              obtain ⟨found, responses, drawn⟩ := responseStored_leaves own
                (before.holding (before.outstanding.eraseIdx index)) taSsn length ok
              exact State.Leaves.moves ⟨found, responses.trans erased, drawn⟩ quiet
          · exact (runCallback_called config _ ok bytes who callback own).moves chosen own sent
      next => simp at taken
  | receive reply =>
      simp only [step, environment] at taken
      split at taken
      next =>
        obtain rfl := Option.some.inj taken
        by_cases own : reply.requestId = number
        · exact receive_moves numbered own
        · refine (receive_leaves own rfl).moves ⟨?_, rfl, ?_⟩
          · simp [State.accepts, own]
          · simp [State.refuses, own]
      next => simp at taken
  | _ =>
      exact ((step_stepped taken).leaves rfl number).moves (unanswered_of_plain rfl before number)

/-! ## Request numbers are not used twice -/

theorem State.Numbered.setPending {base : State} {pending progress : PendingRma}
    (numbered : base.Numbered) (found : base.findPending pending.requestId = some pending)
    (number : progress.requestId = pending.requestId) : (base.setPending progress).Numbered := by
  obtain ⟨earlier, later, shape, _, replace⟩ := State.findPending_split found
  unfold State.Numbered at numbered ⊢
  rw [replace progress number]
  rw [shape] at numbered
  simpa [number] using numbered

theorem PendingOutcome.numbered {base after : State} (outcome : PendingOutcome base after)
    (numbered : base.Numbered) : after.Numbered := by
  cases outcome with
  | ignored => exact numbered
  | progressed pending progress found number => exact numbered.setPending found number
  | stored pending progress taSsn address length found number =>
      exact numbered.setPending found number
  | finished pending status found =>
      exact List.Nodup.sublist ((List.eraseP_sublist).map _) numbered

theorem Stepped.numbered {config : Config} {before after : State} {event : Event}
    (stepped : Stepped config before event after) (matched : before.Matched)
    (numbered : before.Numbered) : after.Numbered := by
  cases stepped with
  | returned | doorbell | created | searched | refused => exact numbered
  | ran task rest who _ top own ran =>
      cases ran.table with
      | kept same drawn =>
          unfold State.Numbered
          rw [same]
          exact numbered
      | added pending longer requestId drawn kind untouched =>
          unfold State.Numbered
          rw [longer, List.map_append, List.nodup_append]
          refine ⟨numbered, by simp, ?_⟩
          rintro number old _ new rfl
          obtain ⟨entry, inside, same⟩ := List.mem_map.mp old
          have below := (matched.drawn entry inside).2
          have level : number = before.nextRmaRequest := by simpa [requestId] using new
          omega
  | called index ok bytes callback who _ chosen own called =>
      cases called with
      | absent | writePayload | writeSent | sendDone | cqe => exact numbered
      | prefetch start count jetty _ existing outcome => cases outcome <;> exact numbered
      | continuation raw remaining nextSlot contiguous jetty _ existing outcome =>
          cases outcome <;> exact numbered
      | sendPayload raw expected jetty _ existing outcome => cases outcome <;> exact numbered
      | sendFailed request requestId bad =>
          split
          · exact List.Nodup.sublist ((List.eraseP_sublist).map _) numbered
          · exact numbered
  | answered index ok bytes callback _ chosen outcome => exact outcome.numbered numbered
  | received reply _ outcome => exact outcome.numbered numbered
  | direct who offset data jetty _ existing outcome => cases outcome <;> exact numbered
  | routed _ _ outcome => cases outcome <;> exact numbered

theorem numbered_of_reaches {config : Config} {guard : State → Event → State → Prop}
    {state : State} (reached : Reaches (step config) guard (State.initial config) state) :
    state.Numbered := by
  refine reached.induction_on State.Numbered List.nodup_nil ?_
  intro before event after earlier numbered taken _
  exact (step_stepped taken).numbered (settled_of_reaches earlier).matched numbered

end Udma.Sq
