import Udma.Sq.Progress

/-!
# Replies in any order

A set of replies that covers a transfer once completes the request in whatever
order the replies arrive, and for a READ in whatever order the host writes end.
-/

namespace Udma.Native

open Udma.Abi Udma.Collections Udma.Transition
open Udma.Sq (Reply Part PendingRma SqRequest Placed)

/-! ## Room for a part -/

/-- The two neighbours of an interval that overlaps none let it in. -/
theorem insertRange_isSome {ranges : List (Nat × Nat)} {first last : Nat}
    (separated : Separated ranges) (positive : first < last)
    (apart : ∀ range ∈ ranges, Apart range (first, last)) :
    (Sq.insertRange ranges first last).isSome = true := by
  have next : ((ranges.dropWhile fun range => decide (range.1 < first)).head?.any
      fun range => decide (range.1 < last)) = false := by
    cases head : (ranges.dropWhile fun range => decide (range.1 < first)).head? with
    | none => rfl
    | some range =>
        have behind : ¬ range.1 < first := by
          have fact := List.head?_dropWhile_not (fun range : Nat × Nat => decide (range.1 < first))
            ranges
          rw [head] at fact
          simpa using fact
        have known : range ∈ ranges :=
          (List.dropWhile_sublist _).subset (List.mem_of_mem_head? head)
        have wide := separated.positive range known
        rcases apart range known with before | after
        · dsimp only at before
          omega
        · simpa using after
  have previous : ((ranges.takeWhile fun range => decide (range.1 < first)).getLast?.any
      fun range => decide (first < range.2)) = false := by
    cases final : (ranges.takeWhile fun range => decide (range.1 < first)).getLast? with
    | none => rfl
    | some range =>
        have inside := List.mem_of_getLast? final
        have ahead : range.1 < first := by simpa using List.mem_takeWhile_imp inside
        have known : range ∈ ranges := (List.takeWhile_sublist _).subset inside
        rcases apart range known with before | after
        · simpa using before
        · dsimp only at after
          omega
  simp [Sq.insertRange, next, previous]

/-! ## The replies to a request -/

/-- The replies of one kind that make up a transfer of `byteCount` bytes. -/
structure Replies (number : Nat) (kind : Sq.ReplyOperation) (byteCount : Nat)
    (replies : List Reply) : Prop where
  requestId : ∀ reply ∈ replies, reply.requestId = number
  operation : ∀ reply ∈ replies, reply.operation = kind
  positive : ∀ reply ∈ replies, 0 < reply.transferLength
  inside : ∀ reply ∈ replies, reply.transactionOffset + reply.transferLength ≤ byteCount
  size : kind = .readResponse →
    ∀ reply ∈ replies, reply.bytes.length = reply.transferLength
  distinct : (replies.map Reply.taSsn).Nodup
  apart : replies.Pairwise fun one two => Apart one.part.range two.part.range

def lengths (replies : List Reply) : Nat := (replies.map Reply.transferLength).sum

theorem lengths_cons (reply : Reply) (rest : List Reply) :
    lengths (reply :: rest) = reply.transferLength + lengths rest := by
  simp [lengths]

theorem lengths_perm {first second : List Reply} (same : first.Perm second) :
    lengths first = lengths second := (same.map _).sum_nat

theorem Replies.perm {number byteCount : Nat} {kind : Sq.ReplyOperation}
    {replies others : List Reply} (set : Replies number kind byteCount replies)
    (same : replies.Perm others) : Replies number kind byteCount others where
  requestId reply membership := set.requestId reply (same.symm.subset membership)
  operation reply membership := set.operation reply (same.symm.subset membership)
  positive reply membership := set.positive reply (same.symm.subset membership)
  inside reply membership := set.inside reply (same.symm.subset membership)
  size read reply membership := set.size read reply (same.symm.subset membership)
  distinct := (same.map _).nodup_iff.mp set.distinct
  apart := (same.pairwise_iff fun apart => apart.symm).mp set.apart

/-- The tests every kind of reply must pass, when the replies in `accepted` have come before. -/
theorem replyInRange_next {number byteCount progressed : Nat} {kind : Sq.ReplyOperation}
    {pending : PendingRma} {accepted rest : List Reply} {reply : Reply}
    (set : Replies number kind byteCount (accepted ++ reply :: rest))
    (placed : Placed pending.responseRanges pending.completedTassns byteCount
      (accepted.map Reply.part))
    (count : pending.request.byteCount = byteCount)
    (room : progressed + reply.transferLength ≤ byteCount) :
    Sq.replyInRange pending reply progressed = true ∧
      ∃ ranges, pending.fits reply = some ranges := by
  have own : reply ∈ accepted ++ reply :: rest := by simp
  have positive := set.positive reply own
  have inside := set.inside reply own
  have fresh : (pending.completedTassns.any fun known => known.1 == reply.taSsn) = false := by
    apply List.any_eq_false.mpr
    intro known membership
    have listed : known.1 ∈ accepted.map Reply.taSsn := by
      have first : known.1 ∈ pending.completedTassns.map Prod.fst := List.mem_map_of_mem membership
      rw [placed.tassns] at first
      simpa [Reply.part, Sq.Reply.part, Function.comp_def] using first
    have nodup := set.distinct
    rw [List.map_append, List.map_cons] at nodup
    have separate := (List.nodup_append.mp nodup).2.2 known.1 listed reply.taSsn (by simp)
    simpa using separate
  constructor
  · simp only [Sq.replyInRange, fresh, count, Bool.not_false, Bool.and_true, Bool.and_eq_true,
      bne_iff_ne, ne_eq, decide_eq_true_eq]
    omega
  · apply Option.isSome_iff_exists.mp
    refine insertRange_isSome placed.separated (by omega) ?_
    intro range membership
    obtain ⟨part, listed, rfl⟩ := List.mem_map.mp (placed.same.subset membership)
    obtain ⟨earlier, known, rfl⟩ := List.mem_map.mp listed
    exact (List.pairwise_append.mp set.apart).2.2 earlier known reply (by simp)

/-! ## Arrivals at the source -/

/-- A reply arrives, or the host write for a READ response succeeds. -/
inductive Arrival where
  | reply (reply : Reply)
  | stored (reply : Reply)

/-- The callback of the host write for a READ response. -/
def storeCallback (reply : Reply) : Sq.Callback :=
  .response reply.requestId reply.taSsn reply.transferLength

/-- Nothing happens for a host write that was never issued. -/
def arrive (state : Sq.State) : Arrival → Sq.State
  | .reply reply => Sq.receive state reply
  | .stored reply =>
      if storeCallback reply ∈ state.outstanding then
        Sq.responseStored (state.holding (state.outstanding.erase (storeCallback reply)))
          reply.requestId reply.taSsn reply.transferLength true
      else state

/-- The record of a request without any reply yet. -/
structure Untouched (pending : PendingRma) : Prop where
  completedBytes : pending.completedBytes = 0
  completedTassns : pending.completedTassns = []
  responseDma : pending.responseDma = 0
  acceptedBytes : pending.acceptedBytes = 0
  failed : pending.failed = false
  responseRanges : pending.responseRanges = []

/-- The request has left the table with status 0. -/
def Completed (number : Nat) (pending : PendingRma) (after : Sq.State) : Prop :=
  after.findPending number = none ∧
    ∃ rest, after.stack = .completeSq pending.jettyId pending.request 0 0 :: rest

/-- What never changes in the record of a request. -/
structure SameRequest (pending current : PendingRma) : Prop where
  request : current.request = pending.request
  jettyId : current.jettyId = pending.jettyId
  localAddress : current.localAddress = pending.localAddress

section Source

variable {number : Nat} {pending : PendingRma} {state : Sq.State} {accepted rest : List Reply}
  {reply : Reply}

/-! ### WRITE -/

/-- The acknowledgements in `accepted` have arrived. -/
structure WriteAt (number : Nat) (pending : PendingRma) (accepted : List Reply)
    (state : Sq.State) : Prop where
  numbered : state.Numbered
  record : ∃ current, state.findPending number = some current ∧ SameRequest pending current ∧
    Placed current.responseRanges current.completedTassns pending.request.byteCount
      (accepted.map Reply.part) ∧
    current.completedBytes = lengths accepted

theorem WriteAt.acknowledged (at_ : WriteAt number pending accepted state)
    (opcode : pending.request.opcode = 3)
    (set : Replies number .writeAck pending.request.byteCount (accepted ++ reply :: rest))
    (total : lengths (accepted ++ reply :: rest) = pending.request.byteCount) :
    (rest = [] → Completed number pending (arrive state (.reply reply))) ∧
      (rest ≠ [] → WriteAt number pending (accepted ++ [reply]) (arrive state (.reply reply))) := by
  obtain ⟨current, found, same, placed, counted⟩ := at_.record
  have own : reply ∈ accepted ++ reply :: rest := by simp
  have sum : lengths accepted + (reply.transferLength + lengths rest) =
      pending.request.byteCount := by
    rw [← total]
    simp [lengths]
  obtain ⟨inRange, ranges, fits⟩ := replyInRange_next set placed
    (congrArg SqRequest.byteCount same.request) (show current.completedBytes +
      reply.transferLength ≤ pending.request.byteCount by omega)
  have shape := Sq.receive_writeAck_eq (set.requestId reply own) found (set.operation reply own)
    (same.request ▸ opcode) inRange fits
  rw [arrive, shape, same.request]
  constructor
  · rintro rfl
    have whole : current.completedBytes + reply.transferLength = pending.request.byteCount := by
      simp [lengths] at sum counted
      omega
    rw [if_neg (by simpa using whole)]
    exact ⟨Sq.findPending_erasePending at_.numbered found, state.stack, by simp [same.jettyId]⟩
  · intro more
    have short : current.completedBytes + reply.transferLength ≠ pending.request.byteCount := by
      obtain ⟨next, later, rfl⟩ := List.exists_cons_of_ne_nil more
      have positive := set.positive next (by simp)
      rw [lengths_cons] at sum
      omega
    rw [if_pos short]
    have requestId := Sq.findPending_requestId found
    have listed : state.findPending current.requestId = some current := requestId ▸ found
    refine ⟨at_.numbered.setPending listed rfl, _, Sq.findPending_setPending found requestId,
      ⟨rfl, same.jettyId, same.localAddress⟩, ?_, ?_⟩
    · have after := (placed.accept true (set.positive reply own) ?_ (set.inside reply own) fits).1
      · rw [List.map_append]
        exact after
      · exact (Sq.replyInRange_spec inRange).2.1
    · simp [counted, lengths]

/-- Acknowledgements complete a WRITE in any order. -/
theorem WriteAt.completes (at_ : WriteAt number pending accepted state)
    (opcode : pending.request.opcode = 3) (more : rest ≠ [])
    (set : Replies number .writeAck pending.request.byteCount (accepted ++ rest))
    (total : lengths (accepted ++ rest) = pending.request.byteCount) :
    Completed number pending ((rest.map Arrival.reply).foldl arrive state) := by
  induction rest generalizing accepted state with
  | nil => exact absurd rfl more
  | cons reply rest inductionHypothesis =>
      obtain ⟨last, earlier⟩ := at_.acknowledged opcode set total
      rw [List.map_cons, List.foldl_cons]
      by_cases final : rest = []
      · subst final
        exact last rfl
      · refine inductionHypothesis (earlier final) final ?_ ?_
        · simpa using set
        · simpa using total

/-! ### READ -/

/-- The host can address the whole buffer of a READ. -/
def Addressed (pending : PendingRma) : Prop :=
  pending.request.byteCount - 1 ≤ 2 ^ 64 - 1 - pending.localAddress

/-- The responses in `accepted` have arrived, and the host writes of those in `live` have not
ended. -/
structure ReadAt (number : Nat) (pending : PendingRma) (accepted live : List Reply)
    (state : Sq.State) : Prop where
  numbered : state.Numbered
  issued : (live.map storeCallback).Subperm state.outstanding
  record : ∃ current, state.findPending number = some current ∧ SameRequest pending current ∧
    Placed current.responseRanges current.completedTassns pending.request.byteCount
      (accepted.map Reply.part) ∧
    current.acceptedBytes = lengths accepted ∧
    current.completedBytes + lengths live = lengths accepted ∧
    current.responseDma = live.length ∧ current.failed = false

theorem ReadAt.responded {live : List Reply} (at_ : ReadAt number pending accepted live state)
    (opcode : pending.request.opcode = 6) (addressed : Addressed pending)
    (set : Replies number .readResponse pending.request.byteCount (accepted ++ reply :: rest))
    (total : lengths (accepted ++ reply :: rest) = pending.request.byteCount) :
    ReadAt number pending (accepted ++ [reply]) (reply :: live) (arrive state (.reply reply)) := by
  obtain ⟨current, found, same, placed, counted, completed, dma, intact⟩ := at_.record
  have own : reply ∈ accepted ++ reply :: rest := by simp
  have byteCount : current.request.byteCount = pending.request.byteCount :=
    congrArg SqRequest.byteCount same.request
  have sum : lengths accepted + (reply.transferLength + lengths rest) =
      pending.request.byteCount := by
    rw [← total]
    simp [lengths]
  obtain ⟨inRange, ranges, fits⟩ := replyInRange_next set placed byteCount
    (show current.acceptedBytes + reply.transferLength ≤ pending.request.byteCount by omega)
  have reachable : ¬ 2 ^ 64 - 1 - current.localAddress < current.request.byteCount - 1 := by
    unfold Addressed at addressed
    rw [same.localAddress, byteCount]
    omega
  have shape := Sq.receive_readResponse_eq (set.requestId reply own) found
    (set.operation reply own) (same.request ▸ opcode) intact (set.size rfl reply own) inRange
    reachable fits
  have requestId := Sq.findPending_requestId found
  have listed : state.findPending current.requestId = some current := requestId ▸ found
  rw [arrive, shape]
  refine ⟨at_.numbered.setPending listed rfl, ?_, _, Sq.findPending_setPending found requestId,
    ⟨same.request, same.jettyId, same.localAddress⟩, ?_, ?_, ?_, ?_, intact⟩
  · have callback : storeCallback reply =
        .response number reply.taSsn reply.transferLength := by
      rw [storeCallback, set.requestId reply own]
    rw [List.map_cons, callback]
    show List.Subperm _ (state.outstanding ++ [_])
    exact ((List.subperm_cons _).mpr at_.issued).trans
      (List.perm_append_singleton _ _).symm.subperm
  · have after := (placed.accept false (set.positive reply own)
      (Sq.replyInRange_spec inRange).2.1 (set.inside reply own) fits).1
    rw [List.map_append]
    exact after
  · simp [counted, lengths]
  · simp only [lengths, List.map_append, List.map_cons, List.map_nil, List.sum_append,
      List.sum_cons, List.sum_nil] at completed ⊢
    omega
  · simp [dma]

/-- The host write of a live response succeeds. -/
theorem ReadAt.stored {live remaining : List Reply}
    (at_ : ReadAt number pending accepted live state)
    (held : live.Perm (reply :: remaining)) (own : reply.requestId = number) :
    (remaining = [] → lengths accepted = pending.request.byteCount →
      Completed number pending (arrive state (.stored reply))) ∧
    ((remaining ≠ [] ∨ lengths accepted ≠ pending.request.byteCount) →
      ReadAt number pending accepted remaining (arrive state (.stored reply))) := by
  obtain ⟨current, found, same, placed, counted, completed, dma, intact⟩ := at_.record
  have byteCount : current.request.byteCount = pending.request.byteCount :=
    congrArg SqRequest.byteCount same.request
  have issued : (storeCallback reply :: remaining.map storeCallback).Subperm
      state.outstanding := (held.map storeCallback).symm.subperm.trans at_.issued
  have outstanding : storeCallback reply ∈ state.outstanding := issued.subset (by simp)
  have size : live.length = remaining.length + 1 := by simpa using held.length_eq
  have bytes : lengths live = reply.transferLength + lengths remaining := by
    rw [lengths_perm held, lengths_cons]
  let base := state.holding (state.outstanding.erase (storeCallback reply))
  have known : base.findPending number = some current := found
  have numbered : base.Numbered := at_.numbered
  have erased : (remaining.map storeCallback).Subperm base.outstanding := by
    have fewer := issued.erase (storeCallback reply)
    simpa [base] using fewer
  have drained : (current.storing reply.taSsn reply.transferLength true).responseDma =
      remaining.length := by
    simp only [PendingRma.storing, if_true]
    omega
  have progress : (current.storing reply.taSsn reply.transferLength true).completedBytes +
      lengths remaining = lengths accepted := by
    simp only [PendingRma.storing, if_true]
    omega
  rw [arrive, if_pos outstanding, own]
  change (_ → _ → Completed number pending (Sq.responseStored base number _ _ true)) ∧
    (_ → ReadAt number pending accepted remaining (Sq.responseStored base number _ _ true))
  rw [Sq.responseStored_eq known]
  constructor
  · rintro rfl whole
    have finished : ¬ ((current.storing reply.taSsn reply.transferLength true).responseDma ≠ 0 ∨
        ¬ (current.storing reply.taSsn reply.transferLength true).failed = true ∧
          (current.storing reply.taSsn reply.transferLength true).completedBytes ≠
            (current.storing reply.taSsn reply.transferLength true).request.byteCount) := by
      have level : (current.storing reply.taSsn reply.transferLength true).request.byteCount =
          pending.request.byteCount := byteCount
      rw [level, drained]
      simp [lengths] at progress whole ⊢
      omega
    rw [if_neg finished]
    refine ⟨Sq.findPending_erasePending numbered known, base.stack, ?_⟩
    simp [PendingRma.storing, same.jettyId, same.request, intact]
  · intro more
    have unfinished : (current.storing reply.taSsn reply.transferLength true).responseDma ≠ 0 ∨
        ¬ (current.storing reply.taSsn reply.transferLength true).failed = true ∧
          (current.storing reply.taSsn reply.transferLength true).completedBytes ≠
            (current.storing reply.taSsn reply.transferLength true).request.byteCount := by
      have level : (current.storing reply.taSsn reply.transferLength true).request.byteCount =
          pending.request.byteCount := byteCount
      have unbroken : (current.storing reply.taSsn reply.transferLength true).failed = false :=
        intact
      rw [level, drained, unbroken]
      rcases more with live | short
      · left
        simpa using live
      · by_cases empty : remaining = []
        · right
          subst empty
          simp [lengths] at progress short ⊢
          omega
        · left
          simpa using empty
    have requestId := Sq.findPending_requestId found
    have listed : base.findPending current.requestId = some current := requestId ▸ known
    rw [if_pos unfinished]
    refine ⟨numbered.setPending listed rfl, erased, _,
      Sq.findPending_setPending known requestId,
      ⟨same.request, same.jettyId, same.localAddress⟩, ?_, counted, progress, drained, intact⟩
    exact ⟨placed.same, placed.separated, placed.inside,
      (Sq.mark_fst _ _).trans placed.tassns, placed.distinct⟩

end Source

/-- An order of arrivals in which the host write of each response ends after the response has
come, when those of the responses in `live` are under way. -/
inductive Schedule : List Reply → List Arrival → Prop where
  | done : Schedule [] []
  | reply {live : List Reply} {rest : List Arrival} (reply : Reply)
      (later : Schedule (reply :: live) rest) : Schedule live (.reply reply :: rest)
  | stored {live remaining : List Reply} {rest : List Arrival} (reply : Reply)
      (held : live.Perm (reply :: remaining)) (later : Schedule remaining rest) :
      Schedule live (.stored reply :: rest)

def Arrival.response : Arrival → Option Reply
  | .reply message => some message
  | .stored _ => none

/-- The replies among the arrivals. -/
def repliesIn (arrivals : List Arrival) : List Reply := arrivals.filterMap Arrival.response

@[simp] theorem repliesIn_reply (reply : Reply) (rest : List Arrival) :
    repliesIn (.reply reply :: rest) = reply :: repliesIn rest := rfl

@[simp] theorem repliesIn_stored (reply : Reply) (rest : List Arrival) :
    repliesIn (.stored reply :: rest) = repliesIn rest := rfl

theorem Schedule.empty {live : List Reply} (schedule : Schedule live []) : live = [] := by
  cases schedule
  rfl

/-- Once all host writes have ended, a schedule goes on with a reply or not at all. -/
theorem Schedule.idle {rest : List Arrival} (schedule : Schedule [] rest) (more : rest ≠ []) :
    ∃ reply later, rest = .reply reply :: later := by
  cases schedule with
  | done => exact absurd rfl more
  | reply reply later => exact ⟨reply, _, rfl⟩
  | stored reply held later => simpa using held.length_eq

/-- Responses complete a READ in any order. -/
theorem ReadAt.completes {number : Nat} {pending : PendingRma} {accepted live : List Reply}
    {state : Sq.State} {arrivals : List Arrival}
    (at_ : ReadAt number pending accepted live state) (schedule : Schedule live arrivals)
    (opcode : pending.request.opcode = 6) (addressed : Addressed pending)
    (more : arrivals ≠ []) (known : ∀ reply ∈ live, reply.requestId = number)
    (set : Replies number .readResponse pending.request.byteCount
      (accepted ++ repliesIn arrivals))
    (total : lengths (accepted ++ repliesIn arrivals) = pending.request.byteCount) :
    Completed number pending (arrivals.foldl arrive state) := by
  induction schedule generalizing accepted state with
  | done => exact absurd rfl more
  | @reply live rest reply later inductionHypothesis =>
      rw [repliesIn_reply] at set total
      rw [List.foldl_cons]
      have unfinished : rest ≠ [] := by
        rintro rfl
        simpa using later.empty
      refine inductionHypothesis (at_.responded opcode addressed set total) unfinished ?_ ?_ ?_
      · exact List.forall_mem_cons.mpr ⟨set.requestId reply (by simp), known⟩
      · simpa using set
      · simpa using total
  | @stored live remaining rest reply held later inductionHypothesis =>
      rw [repliesIn_stored] at set total
      rw [List.foldl_cons]
      obtain ⟨last, earlier⟩ := at_.stored held (known reply (held.symm.subset (by simp)))
      by_cases final : rest = []
      · subst final
        refine last later.empty ?_
        simpa [repliesIn] using total
      · refine inductionHypothesis (earlier ?_) final ?_ set total
        · by_cases empty : remaining = []
          · right
            subst empty
            obtain ⟨next, following, rfl⟩ := later.idle final
            have positive := set.positive next (by simp)
            simp only [repliesIn_reply, lengths, List.map_append, List.map_cons, List.sum_append,
              List.sum_cons] at total ⊢
            omega
          · exact .inl empty
        · exact fun other membership => known other (held.symm.subset (by simp [membership]))

end Udma.Native
