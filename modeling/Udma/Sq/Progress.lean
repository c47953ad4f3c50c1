import Mathlib
import Udma.Collections.Intervals
import Udma.Sq.Requests

/-!
# Progress of an RMA request

The replies to a READ or WRITE arrive in parts, in any order and possibly more
than once, and the parts of a READ are stored by host writes that end in any order.
The accepted parts are disjoint, and their number of bytes tells when they are all
there.
-/

namespace Udma.Sq

open Udma.Abi Udma.Arithmetic Udma.Collections Udma.Transition

/-! ## Accepted parts -/

theorem insertRange_spec {ranges next : List (Nat × Nat)} {first last : Nat}
    (separated : Separated ranges) (positive : first < last)
    (fits : insertRange ranges first last = some next) :
    Separated next ∧ next.Perm ((first, last) :: ranges) := by
  unfold insertRange at fits
  dsimp only at fits
  split at fits
  next => simp at fits
  next clear =>
    obtain rfl := Option.some.inj fits
    simp only [Bool.or_eq_true, not_or, Bool.not_eq_true] at clear
    obtain ⟨next, previous⟩ := clear
    refine ⟨separated.insert positive ?_ ?_, ?_⟩
    · intro range head
      rw [Option.mem_def.mp head] at next
      simpa using next
    · intro range final
      rw [Option.mem_def.mp final] at previous
      simpa using previous
    · refine List.perm_middle.trans (.cons _ ?_)
      exact .of_eq List.takeWhile_append_dropWhile

/-- The accepted parts in the record of a request. -/
structure Placed (ranges : List (Nat × Nat)) (tassns : List (Nat × Bool)) (byteCount : Nat)
    (accepted : List Part) : Prop where
  same : ranges.Perm (accepted.map Part.range)
  separated : Separated ranges
  inside : ∀ range ∈ ranges, range.2 ≤ byteCount
  tassns : tassns.map Prod.fst = accepted.map Part.taSsn
  distinct : (accepted.map Part.taSsn).Nodup

/-- Marking a part as stored keeps the TA SSNs. -/
theorem mark_fst (tassns : List (Nat × Bool)) (taSsn : Nat) :
    (tassns.map fun known => if known.1 == taSsn then (taSsn, true) else known).map Prod.fst =
      tassns.map Prod.fst := by
  rw [List.map_map]
  apply List.map_congr_left
  intro known _
  simp only [Function.comp_apply]
  split
  next same => simpa using (beq_iff_eq.mp same).symm
  next => rfl

namespace Placed

variable {ranges next : List (Nat × Nat)} {tassns : List (Nat × Bool)} {byteCount : Nat}
  {accepted : List Part}

theorem nil : Placed [] [] byteCount [] :=
  ⟨.nil, .nil, by simp, rfl, List.nodup_nil⟩

theorem accept (placed : Placed ranges tassns byteCount accepted) {reply : Reply} (flag : Bool)
    (wide : 0 < reply.transferLength)
    (fresh : (tassns.any fun known => known.1 == reply.taSsn) = false)
    (within : reply.transactionOffset + reply.transferLength ≤ byteCount)
    (fits : insertRange ranges reply.transactionOffset
      (reply.transactionOffset + reply.transferLength) = some next) :
    Placed next (tassns ++ [(reply.taSsn, flag)]) byteCount (accepted ++ [reply.part]) ∧
      total next = total ranges + reply.transferLength := by
  obtain ⟨separated, order⟩ := insertRange_spec placed.separated (by omega) fits
  refine ⟨⟨?_, separated, ?_, ?_, ?_⟩, ?_⟩
  · rw [List.map_append]
    refine (order.trans (.cons _ placed.same)).trans ?_
    exact (List.perm_append_singleton _ _).symm
  · intro range membership
    rcases List.mem_cons.mp (order.subset membership) with rfl | old
    · exact within
    · exact placed.inside range old
  · simp [placed.tassns, Reply.part]
  · rw [List.map_append, List.nodup_append]
    refine ⟨placed.distinct, by simp, ?_⟩
    rintro taSsn old _ new rfl
    rw [← placed.tassns] at old
    obtain ⟨known, inside, same⟩ := List.mem_map.mp old
    have := List.any_eq_false.mp fresh known inside
    rw [List.map_singleton, List.mem_singleton] at new
    simp [same, new, Reply.part] at this
  · rw [total_perm order, total_cons]
    dsimp only
    omega

theorem apart (placed : Placed ranges tassns byteCount accepted) :
    (accepted.map Part.range).Pairwise Apart :=
  (placed.same.pairwise_iff fun apart => apart.symm).mp placed.separated.apart

theorem bounds (placed : Placed ranges tassns byteCount accepted) {part : Part}
    (membership : part ∈ accepted) : part.first < part.last ∧ part.last ≤ byteCount := by
  have known := placed.same.symm.subset (List.mem_map_of_mem membership)
  exact ⟨placed.separated.positive _ known, placed.inside _ known⟩

theorem covers_iff (placed : Placed ranges tassns byteCount accepted) :
    Covers (accepted.map Part.range) 0 byteCount ↔ total ranges = byteCount := by
  have order := placed.separated.covers_iff (fun range _ => Nat.zero_le range.1) placed.inside
    (Nat.zero_le byteCount)
  rw [Nat.zero_add] at order
  rw [← order]
  constructor
  · intro covers number low high
    obtain ⟨range, membership, found⟩ := covers number low high
    exact ⟨range, placed.same.symm.subset membership, found⟩
  · intro covers number low high
    obtain ⟨range, membership, found⟩ := covers number low high
    exact ⟨range, placed.same.subset membership, found⟩

end Placed

/-! ## Phases of a request -/

/-- Every accepted part has been stored. -/
def Journal.Stored (journal : Journal) : Prop :=
  ∀ part ∈ journal.accepted,
    ∃ storage ∈ journal.stored, storage.taSsn = part.taSsn ∧ storage.ok = true

/-- The accepted parts make up the transfer, and those of a READ have been stored. -/
def Journal.Whole (journal : Journal) (request : SqRequest) : Prop :=
  Covers (journal.accepted.map Part.range) 0 request.byteCount ∧
    (request.opcode = 6 → journal.Stored)

/-- The record of an outstanding WRITE. -/
structure WriteOpen (pending : PendingRma) (journal : Journal) : Prop where
  idle : pending.responseDma = 0
  intact : pending.failed = false
  unrefused : journal.refused = false
  counted : pending.completedBytes = total pending.responseRanges
  short : 0 < pending.request.byteCount → pending.completedBytes ≠ pending.request.byteCount

def Journal.storedBytes (journal : Journal) : Nat :=
  ((journal.stored.filter (·.ok)).map Storage.length).sum

/-- The record of a READ agrees with its journal. -/
structure ReadRecord (pending : PendingRma) (journal : Journal) (responses : List (Nat × Nat)) :
    Prop where
  counted : pending.acceptedBytes = total pending.responseRanges
  completed : pending.completedBytes = journal.storedBytes
  accounts : (journal.accepted.map fun part => (part.taSsn, part.length)).Perm
    ((journal.stored.map fun storage => (storage.taSsn, storage.length)) ++ responses)
  failed : pending.failed = (journal.refused || journal.stored.any fun storage => !storage.ok)

/-- The record of an outstanding READ. -/
structure ReadOpen (pending : PendingRma) (journal : Journal) (responses : List (Nat × Nat)) :
    Prop extends ReadRecord pending journal responses where
  draining : pending.failed = true → responses ≠ []
  short : 0 < pending.request.byteCount → responses = [] →
    pending.completedBytes ≠ pending.request.byteCount

structure Outstanding (pending : PendingRma) (journal : Journal) (responses : List (Nat × Nat)) :
    Prop where
  request : journal.request = some pending.request
  placed : Placed pending.responseRanges pending.completedTassns pending.request.byteCount
    journal.accepted
  unended : journal.ended = []
  dma : pending.responseDma = responses.length
  kind : (pending.request.opcode = 3 ∧ WriteOpen pending journal) ∨
    (pending.request.opcode = 6 ∧ ReadOpen pending journal responses)

/-- The journal of a request that has ended. -/
structure Journal.Over (journal : Journal) : Prop where
  placed : ∃ request ranges tassns, journal.request = some request ∧
    Placed ranges tassns request.byteCount journal.accepted
  status : ∃ request status, journal.request = some request ∧ journal.ended = [status] ∧
    (0 < request.byteCount →
      (status = 0 ↔ journal.Whole request ∧ journal.refused = false))

inductive Phase (number : Nat) (state : State) (journal : Journal) : Prop where
  | unborn (later : state.nextRmaRequest ≤ number) (blank : journal = {})
      (missing : state.findPending number = none) (none : state.responses number = [])
  | outstanding (pending : PendingRma) (drawn : number < state.nextRmaRequest)
      (found : state.findPending number = some pending)
      (open_ : Outstanding pending journal (state.responses number))
  | settled (drawn : number < state.nextRmaRequest) (missing : state.findPending number = none)
      (none : state.responses number = []) (closed : journal.Over)

/-- A READ whose parts have all been stored has no host write left. -/
theorem ReadRecord.drained {pending : PendingRma} {journal : Journal}
    {responses : List (Nat × Nat)} (record : ReadRecord pending journal responses)
    (distinct : (journal.accepted.map Part.taSsn).Nodup) (stored : journal.Stored) :
    responses = [] := by
  cases responses with
  | nil => rfl
  | cons response rest =>
      have order := record.accounts.map Prod.fst
      simp only [List.map_map, List.map_append, Function.comp_def] at order
      have nodup := order.nodup_iff.mp distinct
      obtain ⟨part, membership, same⟩ : ∃ part ∈ journal.accepted, part.taSsn = response.1 := by
        have inside : response.1 ∈ journal.accepted.map Part.taSsn :=
          order.symm.subset (by simp)
        exact List.mem_map.mp inside
      obtain ⟨storage, held, tassn, _⟩ := stored part membership
      have early : response.1 ∈ journal.stored.map Storage.taSsn :=
        List.mem_map.mpr ⟨storage, held, tassn.trans same⟩
      exact absurd rfl
        ((List.nodup_append.mp nodup).2.2 response.1 early response.1 (by simp))

/-- What has been stored, when nothing failed and nothing is left. -/
theorem ReadRecord.storedBytes_eq {pending : PendingRma} {journal : Journal}
    (record : ReadRecord pending journal []) (good : ∀ storage ∈ journal.stored, storage.ok = true)
    {tassns : List (Nat × Bool)} {byteCount : Nat}
    (placed : Placed pending.responseRanges tassns byteCount journal.accepted) :
    journal.storedBytes = total pending.responseRanges := by
  have all : journal.stored.filter (·.ok) = journal.stored := List.filter_eq_self.mpr good
  have sums := (record.accounts.map Prod.snd).sum_nat
  simp only [List.append_nil, List.map_map, Function.comp_def] at sums
  unfold Journal.storedBytes
  rw [all]
  have parts : total pending.responseRanges = (journal.accepted.map Part.length).sum := by
    rw [total_perm placed.same, total, List.map_map]
    rfl
  rw [parts, ← sums]

/-- Each TA SSN is stored once, so that a part that was stored was not lost before. -/
theorem ReadRecord.good_of_stored {pending : PendingRma} {journal : Journal}
    {responses : List (Nat × Nat)} (record : ReadRecord pending journal responses)
    (distinct : (journal.accepted.map Part.taSsn).Nodup) (stored : journal.Stored) :
    ∀ storage ∈ journal.stored, storage.ok = true := by
  have order := record.accounts.map Prod.fst
  simp only [List.map_map, List.map_append, Function.comp_def] at order
  have nodup := (List.nodup_append.mp (order.nodup_iff.mp distinct)).1
  intro storage held
  obtain ⟨part, membership, same⟩ : ∃ part ∈ journal.accepted, part.taSsn = storage.taSsn := by
    have inside : storage.taSsn ∈ journal.accepted.map Part.taSsn :=
      order.symm.subset (List.mem_append_left _ (List.mem_map_of_mem held))
    exact List.mem_map.mp inside
  obtain ⟨other, kept, tassn, good⟩ := stored part membership
  rw [List.inj_on_of_nodup_map nodup held kept (same.symm.trans tassn.symm)]
  exact good

/-- What is stored without a failure is stored well. -/
theorem ReadRecord.stored_of_good {pending : PendingRma} {journal : Journal}
    (record : ReadRecord pending journal [])
    (good : ∀ storage ∈ journal.stored, storage.ok = true) : journal.Stored := by
  intro part membership
  have inside := record.accounts.subset (List.mem_map_of_mem membership)
  rw [List.append_nil] at inside
  obtain ⟨storage, held, same⟩ := List.mem_map.mp inside
  exact ⟨storage, held, congrArg Prod.fst same, good storage held⟩

theorem Outstanding.not_whole {pending : PendingRma} {journal : Journal}
    {responses : List (Nat × Nat)} (open_ : Outstanding pending journal responses)
    (some : 0 < pending.request.byteCount) :
    ¬ (journal.Whole pending.request ∧ journal.refused = false) := by
  rintro ⟨⟨covers, stored⟩, unrefused⟩
  have whole := open_.placed.covers_iff.mp covers
  rcases open_.kind with ⟨_, writeOpen⟩ | ⟨opcode, readOpen⟩
  · exact writeOpen.short some (writeOpen.counted.trans whole)
  · obtain rfl := readOpen.drained open_.placed.distinct (stored opcode)
    have intact : pending.failed = false := by
      cases failed : pending.failed with
      | false => rfl
      | true => exact absurd rfl (readOpen.draining failed)
    have good := readOpen.good_of_stored open_.placed.distinct (stored opcode)
    have := readOpen.storedBytes_eq good open_.placed
    exact readOpen.short some rfl (readOpen.completed.trans (this.trans whole))

/-! ## Steps -/

section Steps

variable {pending : PendingRma} {journal : Journal} {responses : List (Nat × Nat)}
  {reply : Reply} {ranges : List (Nat × Nat)}

theorem replyInRange_spec {progressed : Nat}
    (inRange : replyInRange pending reply progressed = true) :
    0 < reply.transferLength ∧
      (pending.completedTassns.any fun known => known.1 == reply.taSsn) = false ∧
      reply.transactionOffset + reply.transferLength ≤ pending.request.byteCount := by
  simp only [replyInRange, Bool.and_eq_true, bne_iff_ne, ne_eq, Bool.not_eq_true',
    decide_eq_true_eq] at inRange
  obtain ⟨⟨⟨⟨wide, fresh⟩, offset⟩, length⟩, _⟩ := inRange
  exact ⟨Nat.pos_of_ne_zero wide, fresh, by omega⟩

/-- A part of a WRITE is acknowledged. -/
theorem Outstanding.acked (open_ : Outstanding pending journal responses)
    (operation : reply.operation = .writeAck) (admitted : pending.admits reply = true)
    (fits : pending.fits reply = some ranges) :
    WriteOpen pending journal ∧ pending.request.opcode = 3 ∧
      Placed ranges (pending.completedTassns ++ [(reply.taSsn, true)]) pending.request.byteCount
        (journal.accepted ++ [reply.part]) ∧
      pending.completedBytes + reply.transferLength = total ranges := by
  simp only [PendingRma.admits, operation, Bool.and_eq_true, decide_eq_true_eq] at admitted
  obtain ⟨⟨opcode, inRange⟩, _⟩ := admitted
  obtain ⟨wide, fresh, within⟩ := replyInRange_spec inRange
  obtain ⟨placed, longer⟩ := open_.placed.accept true wide fresh within fits
  rcases open_.kind with ⟨_, writeOpen⟩ | ⟨read, _⟩
  · exact ⟨writeOpen, opcode, placed, by rw [longer, writeOpen.counted]⟩
  · omega

/-- A part of a READ arrives and is handed to the host. -/
theorem Outstanding.responded (open_ : Outstanding pending journal responses)
    (operation : reply.operation = .readResponse) (admitted : pending.admits reply = true)
    (fits : pending.fits reply = some ranges) {next : Journal}
    (request : next.request = journal.request)
    (accepted : next.accepted = journal.accepted ++ [reply.part])
    (stored : next.stored = journal.stored) (refused : next.refused = journal.refused)
    (ended : next.ended = journal.ended) :
    Outstanding { pending with
      responseRanges := ranges
      completedTassns := pending.completedTassns ++ [(reply.taSsn, false)]
      acceptedBytes := pending.acceptedBytes + reply.transferLength
      responseDma := pending.responseDma + 1 } next
      (responses ++ [(reply.taSsn, reply.transferLength)]) := by
  simp only [PendingRma.admits, operation, Bool.and_eq_true, decide_eq_true_eq,
    Bool.not_eq_true', decide_eq_false_iff_not] at admitted
  obtain ⟨⟨⟨⟨⟨opcode, intact⟩, _⟩, inRange⟩, _⟩, _⟩ := admitted
  obtain ⟨wide, fresh, within⟩ := replyInRange_spec inRange
  obtain ⟨placed, longer⟩ := open_.placed.accept false wide fresh within fits
  rcases open_.kind with ⟨write, _⟩ | ⟨_, readOpen⟩
  · omega
  · refine ⟨request.trans open_.request, ?_, ended.trans open_.unended, ?_, .inr ⟨opcode, ?_⟩⟩
    · rw [accepted]
      exact placed
    · simp [open_.dma]
    · refine ⟨⟨?_, ?_, ?_, ?_⟩, by simp, by simp⟩
      · dsimp only
        rw [longer, readOpen.counted]
      · unfold Journal.storedBytes
        rw [stored]
        exact readOpen.completed
      · rw [accepted, stored, List.map_append, ← List.append_assoc]
        refine (readOpen.accounts.append_right _).trans (.of_eq ?_)
        simp [Reply.part, Part.length]
      · rw [refused, stored]
        exact readOpen.failed

/-- An error frame for a READ with host writes under way. -/
theorem Outstanding.refused (open_ : Outstanding pending journal responses)
    (busy : pending.responseDma ≠ 0) {next : Journal} (request : next.request = journal.request)
    (accepted : next.accepted = journal.accepted) (stored : next.stored = journal.stored)
    (refused : next.refused = true) (ended : next.ended = journal.ended) :
    Outstanding { pending with failed := true } next responses := by
  have live : responses ≠ [] := by
    rintro rfl
    exact busy open_.dma
  rcases open_.kind with ⟨write, writeOpen⟩ | ⟨opcode, readOpen⟩
  · exact absurd writeOpen.idle busy
  · refine ⟨request.trans open_.request, accepted ▸ open_.placed, ended.trans open_.unended,
      open_.dma, .inr ⟨opcode, ?_⟩⟩
    refine ⟨⟨readOpen.counted, ?_, ?_, by simp [refused]⟩, fun _ => live,
      fun _ empty => absurd empty live⟩
    · unfold Journal.storedBytes
      rw [stored]
      exact readOpen.completed
    · rw [accepted, stored]
      exact readOpen.accounts

/-- A host write of a READ ends. -/
theorem Outstanding.storing (open_ : Outstanding pending journal responses)
    {taSsn length : Nat} (ok : Bool) {remaining : List (Nat × Nat)}
    (held : responses.Perm ((taSsn, length) :: remaining)) {next : Journal}
    (accepted : next.accepted = journal.accepted)
    (stored : next.stored = journal.stored ++ [⟨taSsn, length, ok⟩])
    (refused : next.refused = journal.refused) :
    pending.request.opcode = 6 ∧
      (pending.storing taSsn length ok).request = pending.request ∧
      Placed (pending.storing taSsn length ok).responseRanges
        (pending.storing taSsn length ok).completedTassns pending.request.byteCount
        next.accepted ∧
      (pending.storing taSsn length ok).responseDma = remaining.length ∧
      ReadRecord (pending.storing taSsn length ok) next remaining := by
  have size : responses.length = remaining.length + 1 := by simpa using held.length_eq
  have dma := open_.dma
  rcases open_.kind with ⟨write, writeOpen⟩ | ⟨opcode, readOpen⟩
  · have := writeOpen.idle
    omega
  · have placed := open_.placed
    have accounts : (next.accepted.map fun part => (part.taSsn, part.length)).Perm
        ((next.stored.map fun storage => (storage.taSsn, storage.length)) ++ remaining) := by
      rw [accepted, stored, List.map_append, List.append_assoc]
      exact readOpen.accounts.trans (held.append_left _)
    cases ok with
    | true =>
        refine ⟨opcode, rfl, ⟨accepted ▸ placed.same, placed.separated, placed.inside, ?_,
          accepted ▸ placed.distinct⟩, ?_, readOpen.counted, ?_, accounts, ?_⟩
        · rw [accepted, ← placed.tassns]
          exact mark_fst _ taSsn
        · simp only [PendingRma.storing, ↓reduceIte]
          omega
        · simp [PendingRma.storing, readOpen.completed, Journal.storedBytes, stored]
        · simp [PendingRma.storing, readOpen.failed, refused, stored]
    | false =>
        refine ⟨opcode, rfl, ⟨accepted ▸ placed.same, placed.separated, placed.inside,
          accepted ▸ placed.tassns, accepted ▸ placed.distinct⟩, ?_, readOpen.counted, ?_,
          accounts, ?_⟩
        · simp only [PendingRma.storing, Bool.false_eq_true, ↓reduceIte]
          omega
        · simp [PendingRma.storing, readOpen.completed, Journal.storedBytes, stored]
        · simp [PendingRma.storing, stored]

end Steps

/-- What the journal of a request says in the end. -/
theorem Journal.over_of {journal : Journal} {request : SqRequest} {status : Nat}
    {ranges : List (Nat × Nat)} {tassns : List (Nat × Bool)}
    (known : journal.request = some request)
    (placed : Placed ranges tassns request.byteCount journal.accepted)
    (ended : journal.ended = [status])
    (success : 0 < request.byteCount →
      (status = 0 ↔ journal.Whole request ∧ journal.refused = false)) : journal.Over :=
  ⟨⟨request, ranges, tassns, known, placed⟩, ⟨request, status, known, ended, success⟩⟩

theorem ends_of_same {before after : State} {number : Nat}
    (found : after.findPending number = before.findPending number) :
    before.ends number after = [] := by
  unfold State.ends
  rw [found]
  cases before.findPending number <;> rfl

theorem ends_of_found {before after : State} {number : Nat} {pending : PendingRma}
    (found : after.findPending number = some pending) : before.ends number after = [] := by
  simp [State.ends, found]

section Record

variable {number : Nat} {before after : State} {event : Event} {journal : Journal}
  {pending : PendingRma}

theorem Journal.record_idle (found : after.findPending number = before.findPending number)
    (quiet : before.Unanswered number event)
    (known : journal.request.isSome = true ∨ before.findPending number = none) :
    journal.record number before event after = journal := by
  have request : (journal.request <|> (after.findPending number).map (·.request)) =
      journal.request := by
    rcases known with known | missing
    · obtain ⟨request, known⟩ := Option.isSome_iff_exists.mp known
      simp [known]
    · simp [found, missing]
  unfold record
  rw [request, quiet.accepts, quiet.stores, quiet.refuses, ends_of_same found]
  simp

theorem Outstanding.keeps_request {responses : List (Nat × Nat)}
    (open_ : Outstanding pending journal responses) :
    (journal.record number before event after).request = journal.request := by
  simp [Journal.record, open_.request]

theorem accepts_of_admitted {reply : Reply} (own : reply.requestId = number)
    (found : before.findPending number = some pending) (admitted : pending.admits reply = true) :
    before.accepts number (.receive reply) = [reply.part] := by
  simp [State.accepts, own, found, admitted]

theorem refuses_of_operation {reply : Reply} (operation : reply.operation ≠ .rmaError) :
    before.refuses number (.receive reply) = false := by
  simp [State.refuses, operation]

end Record

theorem Outstanding.step {number : Nat} {before after : State} {event : Event}
    {journal : Journal} {pending : PendingRma}
    (open_ : Outstanding pending journal (before.responses number))
    (drawn : number < before.nextRmaRequest) (held : before.findPending number = some pending)
    (move : RequestMove number before event after) :
    Phase number after (journal.record number before event after) := by
  have request := open_.request
  have kept : ∀ event after, (journal.record number before event after).request =
      some pending.request := fun _ _ => open_.keeps_request.trans request
  cases move with
  | idle _ _ found responses level quiet =>
      rw [Journal.record_idle found quiet (.inl (by simp [request]))]
      exact .outstanding pending (level.mp drawn) (found.trans held) (responses ▸ open_)
  | opened _ _ _ level => omega
  | strayed _ _ _ _ taSsn length responses missing => simp [missing] at held
  | acked reply _ other ranges own found operation admitted fits short next responses level =>
      obtain rfl : pending = other := by simpa [held] using found
      obtain ⟨writeOpen, opcode, placed, counted⟩ := open_.acked operation admitted fits
      refine .outstanding _ (by omega) next ?_
      refine ⟨kept _ _, ?_, ?_, ?_, .inl ⟨opcode, ?_⟩⟩
      · simpa [Journal.record, accepts_of_admitted own held admitted] using placed
      · simp [Journal.record, open_.unended, ends_of_found next]
      · rw [responses]
        exact open_.dma
      · refine ⟨writeOpen.idle, writeOpen.intact, ?_, counted, fun _ => short⟩
        simp [Journal.record, writeOpen.unrefused, operation, refuses_of_operation]
  | ackedLast reply _ other ranges own found operation admitted fits whole gone ends responses
      level =>
      obtain rfl : pending = other := by simpa [held] using found
      obtain ⟨writeOpen, opcode, placed, counted⟩ := open_.acked operation admitted fits
      have idle : before.responses number = [] :=
        List.eq_nil_of_length_eq_zero (open_.dma.symm.trans writeOpen.idle)
      have accepted : (journal.record number before (.receive reply) after).accepted =
          journal.accepted ++ [reply.part] := by
        simp [Journal.record, accepts_of_admitted own held admitted]
      refine .settled (by omega) gone (responses.trans idle) ?_
      refine Journal.over_of (kept _ _) (accepted ▸ placed)
        (show _ = [0] by simp [Journal.record, open_.unended, ends]) ?_
      intro _
      refine ⟨fun _ => ⟨⟨?_, by simp [opcode]⟩, ?_⟩, fun _ => rfl⟩
      · rw [accepted, placed.covers_iff]
        omega
      · simp [Journal.record, writeOpen.unrefused, operation, refuses_of_operation]
  | responded reply _ other ranges own found operation admitted fits next responses level =>
      obtain rfl : pending = other := by simpa [held] using found
      refine .outstanding _ (by omega) next ?_
      rw [responses]
      refine open_.responded operation admitted fits open_.keeps_request ?_ ?_ ?_ ?_
      · simp [Journal.record, accepts_of_admitted own held admitted]
      · simp [Journal.record, State.stores]
      · simp [Journal.record, operation, refuses_of_operation]
      · simp [Journal.record, ends_of_found next]
  | refused reply _ other own found operation busy next responses level =>
      obtain rfl : pending = other := by simpa [held] using found
      refine .outstanding _ (by omega) next ?_
      rw [responses]
      refine open_.refused busy open_.keeps_request ?_ ?_ ?_ ?_
      · simp [Journal.record, State.accepts, PendingRma.admits, operation, held]
      · simp [Journal.record, State.stores]
      · simp [Journal.record, State.refuses, operation, own, held]
      · simp [Journal.record, ends_of_found next]
  | refusedLast reply _ other own found operation idle gone ends responses level =>
      obtain rfl : pending = other := by simpa [held] using found
      have empty : before.responses number = [] :=
        List.eq_nil_of_length_eq_zero (open_.dma.symm.trans idle)
      have accepted : (journal.record number before (.receive reply) after).accepted =
          journal.accepted := by
        simp [Journal.record, State.accepts, PendingRma.admits, operation, held]
      refine .settled (by omega) gone (responses.trans empty) ?_
      refine Journal.over_of (kept _ _) (accepted ▸ open_.placed)
        (show _ = [5] by simp [Journal.record, open_.unended, ends]) ?_
      intro _
      simp [Journal.record, State.refuses, operation, own, held]
  | stored index ok bytes _ taSsn length other progress responses found stores progressed more
      next level =>
      obtain rfl : pending = other := by simpa [held] using found
      subst progressed
      obtain ⟨opcode, same, placed, dma, record⟩ := open_.storing ok responses
        (show (journal.record number before (.fire index ok bytes) after).accepted = _ by
          simp [Journal.record, State.accepts])
        (by simp [Journal.record, stores]) (by simp [Journal.record, State.refuses])
      refine .outstanding _ (by omega) next ?_
      refine ⟨(kept _ _).trans (by rw [same]), by rw [same]; exact placed, ?_, dma,
        .inr ⟨by rw [same]; exact opcode, record, ?_, ?_⟩⟩
      · simp [Journal.record, open_.unended, ends_of_found next]
      · intro failed empty
        rw [empty] at dma
        rcases more with live | ⟨intact, _⟩
        · exact live dma
        · simp [failed] at intact
      · intro _ empty
        rw [empty] at dma
        rcases more with live | ⟨_, short⟩
        · exact absurd dma live
        · exact short
  | storedLast index ok bytes _ taSsn length other progress responses found stores progressed idle
      whole gone ends level =>
      obtain rfl : pending = other := by simpa [held] using found
      subst progressed
      obtain ⟨opcode, same, placed, dma, record⟩ := open_.storing ok responses
        (show (journal.record number before (.fire index ok bytes) after).accepted = _ by
          simp [Journal.record, State.accepts])
        (by simp [Journal.record, stores]) (by simp [Journal.record, State.refuses])
      have empty : after.responses number = [] :=
        List.eq_nil_of_length_eq_zero (dma.symm.trans idle)
      rw [empty] at record
      refine .settled (by omega) gone empty ?_
      refine Journal.over_of (kept _ _) placed
        (by simp only [Journal.record, open_.unended, ends, List.nil_append]; rfl) ?_
      intro _
      cases failed : (pending.storing taSsn length ok).failed with
      | true =>
          simp only [↓reduceIte, Nat.reduceEqDiff, false_iff]
          rintro ⟨⟨_, stored⟩, unrefused⟩
          have good := record.good_of_stored placed.distinct (stored opcode)
          have reason := record.failed
          rw [failed, unrefused, Bool.false_or, eq_comm, List.any_eq_true] at reason
          obtain ⟨storage, held, bad⟩ := reason
          simp [good storage held] at bad
      | false =>
          simp only [Bool.false_eq_true, ↓reduceIte, true_iff]
          have reason := record.failed
          rw [failed, eq_comm, Bool.or_eq_false_iff] at reason
          have good : ∀ storage ∈
              (journal.record number before (.fire index ok bytes) after).stored,
              storage.ok = true := by
            intro storage held
            simpa using List.any_eq_false.mp reason.2 storage held
          refine ⟨⟨?_, fun _ => record.stored_of_good good⟩, reason.1⟩
          rw [placed.covers_iff, ← record.storedBytes_eq good placed, ← record.completed, ← same]
          simpa [failed] using whole

theorem Phase.step {number : Nat} {before after : State} {event : Event} {journal : Journal}
    (phase : Phase number before journal) (move : RequestMove number before event after) :
    Phase number after (journal.record number before event after) := by
  cases phase with
  | unborn later blank missing none =>
      subst blank
      cases move with
      | idle _ _ found responses drawn quiet =>
          rw [Journal.record_idle found quiet (.inr missing)]
          exact .unborn (by omega) rfl (found.trans missing) (responses.trans none)
      | opened _ _ pending level drawn found kind untouched responses quiet =>
          refine .outstanding pending (by omega) found ?_
          have empty : after.responses number = [] := responses.trans none
          have record : Journal.record number before event after {} =
              { request := some pending.request } := by
            unfold Journal.record
            rw [found, quiet.accepts, quiet.stores, quiet.refuses, ends_of_found found]
            rfl
          rw [record, empty]
          refine ⟨rfl, ?_, rfl, untouched.responseDma, ?_⟩
          · rw [untouched.responseRanges, untouched.completedTassns]
            exact .nil
          · rcases kind with write | read
            · refine .inl ⟨write, untouched.responseDma, untouched.failed, rfl, ?_, ?_⟩
              · simp [untouched.completedBytes, untouched.responseRanges]
              · rw [untouched.completedBytes]
                omega
            · refine .inr ⟨read, ⟨?_, ?_, .nil, ?_⟩, ?_, ?_⟩
              · simp [untouched.acceptedBytes, untouched.responseRanges]
              · rw [untouched.completedBytes]
                rfl
              · simp [untouched.failed]
              · simp [untouched.failed]
              · rw [untouched.completedBytes]
                omega
      | strayed _ _ _ _ taSsn length responses => simp [none] at responses
      | acked _ _ _ _ _ found | ackedLast _ _ _ _ _ found | responded _ _ _ _ _ found
      | refused _ _ _ _ found | refusedLast _ _ _ _ found => simp [missing] at found
      | stored _ _ _ _ _ _ _ _ _ found | storedLast _ _ _ _ _ _ _ _ _ found =>
          simp [missing] at found
  | settled drawn missing none closed =>
      have known : journal.request.isSome = true := by
        obtain ⟨request, _, known, _⟩ := closed.status
        simp [known]
      cases move with
      | idle _ _ found responses level quiet =>
          rw [Journal.record_idle found quiet (.inl known)]
          exact .settled (level.mp drawn) (found.trans missing) (responses.trans none) closed
      | opened _ _ _ level => omega
      | strayed _ _ _ _ taSsn length responses => simp [none] at responses
      | acked _ _ _ _ _ found | ackedLast _ _ _ _ _ found | responded _ _ _ _ _ found
      | refused _ _ _ _ found | refusedLast _ _ _ _ found => simp [missing] at found
      | stored _ _ _ _ _ _ _ _ _ found | storedLast _ _ _ _ _ _ _ _ _ found =>
          simp [missing] at found
  | outstanding pending drawn held open_ => exact open_.step drawn held move

/-! ## Runs -/

/-- The engine with a journal of one request number. -/
def tracked (config : Config) (number : Nat) :
    State × Journal → Event → Option (State × Journal) :=
  recorded (step config) (Journal.record number)

/-- The frame is counted as an error and nothing else. -/
def State.Rejects (state : State) (reply : Reply) : Prop :=
  ∀ pending ∈ state.findPending reply.requestId,
    reply.operation ≠ .rmaError ∧ pending.admits reply = false

structure RmaExact (state : State) (number : Nat) (journal : Journal) : Prop where
  inside : ∀ request ∈ journal.request, ∀ part ∈ journal.accepted,
    part.first < part.last ∧ part.last ≤ request.byteCount
  apart : (journal.accepted.map Part.range).Pairwise Apart
  distinct : (journal.accepted.map Part.taSsn).Nodup
  success : ∀ request ∈ journal.request, 0 < request.byteCount →
    (0 ∈ journal.ended ↔ journal.Whole request ∧ journal.refused = false)
  once : journal.ended.length ≤ 1
  drained : journal.ended ≠ [] → state.responses number = []
  rejected : ∀ reply, state.Rejects reply → receive state reply = state

theorem phase_of_reaches {config : Config} {number : Nat} (drawn : 0 < number) {state : State}
    {journal : Journal}
    (reached : Reaches (tracked config number) (recordedGuard (Sent number))
      (State.initial config, {}) (state, journal)) : Phase number state journal := by
  refine reached.recorded_induction (Phase number) ?_ ?_
  · exact .unborn drawn rfl rfl rfl
  · intro before event after journal earlier phase taken sent
    exact phase.step (request_moves (settled_of_reaches earlier).matched
      (numbered_of_reaches earlier) taken sent)

theorem State.Rejects.receive {state : State} {reply : Reply} (rejects : state.Rejects reply) :
    receive state reply = state := by
  by_cases operation : reply.operation = .rmaError
  · cases found : state.findPending reply.requestId with
    | none => simp [Sq.receive, operation, found]
    | some pending => exact absurd operation (rejects pending found).1
  · exact receive_rejected (fun pending found => (rejects pending found).2) operation

theorem rma_exact {config : Config} {number : Nat} (drawn : 0 < number) {state : State}
    {journal : Journal}
    (reached : Reaches (tracked config number) (recordedGuard (Sent number))
      (State.initial config, {}) (state, journal)) : RmaExact state number journal := by
  have rejected : ∀ reply, state.Rejects reply → receive state reply = state :=
    fun _ rejects => rejects.receive
  cases phase_of_reaches drawn reached with
  | unborn later blank missing none =>
      subst blank
      exact ⟨by simp, .nil, .nil, by simp, by simp, by simp, rejected⟩
  | outstanding pending level found open_ =>
      have request := open_.request
      have unended := open_.unended
      refine ⟨?_, open_.placed.apart, open_.placed.distinct, ?_, by simp [unended],
        by simp [unended], rejected⟩
      · intro other known part membership
        obtain rfl : pending.request = other := by simpa [request] using known
        exact open_.placed.bounds membership
      · intro other known positive
        obtain rfl : pending.request = other := by simpa [request] using known
        simpa [unended] using open_.not_whole positive
  | settled level missing none closed =>
      obtain ⟨request, ranges, tassns, known, placed⟩ := closed.placed
      obtain ⟨same, status, sameKnown, ended, success⟩ := closed.status
      obtain rfl : request = same := by simpa [known] using sameKnown
      refine ⟨?_, placed.apart, placed.distinct, ?_, by simp [ended], fun _ => none, rejected⟩
      · intro other kept part membership
        obtain rfl : request = other := by simpa [known] using kept
        exact placed.bounds membership
      · intro other kept positive
        obtain rfl : request = other := by simpa [known] using kept
        rw [ended, List.mem_singleton, eq_comm]
        exact success positive

/-- A part of the data of request 1. -/
def Event.data (taSsn offset : Nat) (bytes : Bytes) : Event :=
  .receive
    { operation := .readResponse
      requestId := 1
      taSsn := taSsn
      transactionOffset := offset
      transferLength := bytes.length
      bytes := bytes }

/-- The two halves of a READ arrive in the opposite order and are stored. -/
theorem read_in_two_parts_exact :
    ∃ state journal, Reaches (tracked (.small false) 1) (recordedGuard (Sent 1))
        (State.initial (.small false), {}) (state, journal) ∧
      journal.accepted = [⟨5, 2, 4⟩, ⟨6, 0, 2⟩] ∧ journal.ended = [0] ∧
      RmaExact state 1 journal := by
  let read := SqWqe.image true 0 0 6 1 0x8000 ⟨4, 0, 0x8000⟩
  let events : List Event := opening 9 3 ++ [.doorbell 9 1] ++ runs 7 ++
    [.fire 0 true read] ++ runs 10 ++ [.fire 0 true [], .data 5 2 [3, 4]] ++ runs 1 ++
    [.data 6 0 [1, 2]] ++ runs 1 ++ [.fire 1 true [], .fire 0 true []]
  obtain ⟨⟨state, journal⟩, reached, seen⟩ := exists_of_execute
    (show (execute (tracked (.small false) 1) (recordedGuard (Sent 1)) events
      (State.initial (.small false), {})).map (fun pair => (pair.2.accepted, pair.2.ended)) =
        some ([⟨5, 2, 4⟩, ⟨6, 0, 2⟩], [0]) by decide +kernel)
  obtain ⟨accepted, ended⟩ := Prod.mk.injEq .. |>.mp seen
  exact ⟨state, journal, reached, accepted, ended, rma_exact (by decide) reached⟩

/-- An error frame arrives while the host stores the whole of a READ: the READ ends with
status 5. -/
theorem refused_read_fails_though_whole :
    ¬ ∀ (state : State) (journal : Journal),
      Reaches (tracked (.small false) 1) (recordedGuard (Sent 1))
        (State.initial (.small false), {}) (state, journal) →
      ∀ request ∈ journal.request, 0 < request.byteCount →
        (0 ∈ journal.ended ↔ journal.Whole request) := by
  intro exact_
  let read := SqWqe.image true 0 0 6 1 0x8000 ⟨4, 0, 0x8000⟩
  let events : List Event := opening 9 3 ++ [.doorbell 9 1] ++ runs 7 ++
    [.fire 0 true read] ++ runs 10 ++ [.fire 0 true [], .data 0 0 [1, 2, 3, 4]] ++ runs 1 ++
    [.receive { operation := .rmaError, requestId := 1 }, .fire 0 true []]
  obtain ⟨⟨state, journal⟩, reached, seen⟩ := exists_of_execute
    (show (execute (tracked (.small false) 1) (recordedGuard (Sent 1)) events
      (State.initial (.small false), {})).map
        (fun pair => (pair.2.request.map (·.byteCount), pair.2.accepted, pair.2.stored,
          pair.2.ended)) =
        some (some 4, [⟨0, 0, 4⟩], [⟨0, 4, true⟩], [5]) by decide +kernel)
  simp only [Prod.mk.injEq] at seen
  obtain ⟨size, accepted, stored, ended⟩ := seen
  obtain ⟨request, known, bytes⟩ := Option.map_eq_some_iff.mp size
  have whole : journal.Whole request := by
    refine ⟨?_, fun _ => ?_⟩
    · intro number _ below
      exact ⟨(0, 4), by simp [accepted, Part.range], Nat.zero_le _, by omega⟩
    · intro part membership
      rw [accepted, List.mem_singleton] at membership
      exact ⟨⟨0, 4, true⟩, by simp [stored], by simp [membership], rfl⟩
  have zero := (exact_ state journal reached request known (by omega)).mpr whole
  rw [ended] at zero
  simp at zero

end Udma.Sq
