import Mathlib
import Udma.Collections.Tiling
import Udma.Ummu.Transfer

/-!
# What a transfer accesses

The pieces of a transfer follow each other, each of them is translated and then
accessed at most once, and the outcome of the transfer is that of its pieces.
-/

namespace Udma.Ummu

open Abi (Bytes)
open Collections
open Transition (Reaches always execute exists_of_execute recorded recordedGuard)

/-- The data of a write, or as many bytes as are to be read. -/
abbrev Access.Payload (access : Access) := { bytes : Bytes // bytes.length = access.length }

/-- `ReadToken` or `WriteToken` up to the loop of the pump. -/
def Access.begin (access : Access) (payload : access.Payload) : Transfer :=
  if access.write then writeToken payload.1 else readToken access

def Chunk.range (chunk : Chunk) : Nat × Nat := (chunk.offset, chunk.size)

/-! ## The journal of a transfer -/

/-- How a piece ended: given up without a DMA, or with the reply of its DMA. -/
inductive Outcome where
  | abandoned
  | transferred (physical : Nat) (ok : Bool) (data : Bytes)
  deriving DecidableEq, Repr

structure TransferJournal where
  /-- The pieces handed to `TranslateToken`. -/
  started : List Chunk := []
  /-- The replies of `TranslateToken`. -/
  translations : List (Chunk × Bool × Nat) := []
  outcomes : List (Chunk × Outcome) := []

def TransferJournal.record (access : Access) (before : Transfer) (event : TransferEvent)
    (_after : Transfer) (journal : TransferJournal) : TransferJournal :=
  match event with
  | .issue => { journal with started := journal.started ++ [access.chunkAt before.nextOffset] }
  | .settle => journal
  | .translated index ok physical =>
      match before.calls[index]? with
      | some (.translation chunk) =>
          { journal with
            translations := journal.translations ++ [(chunk, ok, physical)]
            outcomes :=
              if before.failed ∨ ok = false ∨ physical = 0 then
                journal.outcomes ++ [(chunk, .abandoned)]
              else journal.outcomes }
      | _ => journal
  | .transferred index ok data =>
      match before.calls[index]? with
      | some (.dma chunk physical) =>
          { journal with
            outcomes := journal.outcomes ++ [(chunk, .transferred physical ok data)] }
      | _ => journal

/-- The outcome of a piece that was accessed as it should be. -/
def Outcome.Complete (access : Access) (chunk : Chunk) : Outcome → Prop
  | .abandoned => False
  | .transferred _ ok data => ok = true ∧ (access.write = true ∨ data.length = chunk.size)

/-- The piece has been translated to an address that is not zero, and its DMA there has
succeeded. -/
def TransferJournal.Succeeded (journal : TransferJournal) (access : Access) (chunk : Chunk) :
    Prop :=
  ∃ physical data, physical ≠ 0 ∧ (chunk, true, physical) ∈ journal.translations ∧
    (chunk, .transferred physical true data) ∈ journal.outcomes ∧
    (access.write = true ∨ data.length = chunk.size)

/-! ## The accounts of the pieces -/

/-- The bytes of a piece that has been accessed are in their place. -/
def Transfer.Placed (access : Access) (transfer : Transfer) (chunk : Chunk) (physical : Nat)
    (data : Bytes) : Prop :=
  if access.write then (chunk, physical, cut transfer.bytes chunk.range) ∈ transfer.issued
  else data = cut transfer.bytes chunk.range

structure Transfer.Accounted (access : Access) (payload : access.Payload) (transfer : Transfer)
    (journal : TransferJournal) : Prop where
  tiling : Tiling 0 (journal.started.map Chunk.range) transfer.nextOffset
  pieces : ∀ chunk ∈ journal.started, access.Piece chunk
  split : (transfer.calls.map Call.chunk ++ journal.outcomes.map Prod.fst).Perm journal.started
  window : transfer.inFlight ≤ access.limit
  length : transfer.bytes.length = access.length
  payload_kept : access.write = true → transfer.bytes = payload.1
  dma : ∀ chunk physical, .dma chunk physical ∈ transfer.calls →
    physical ≠ 0 ∧ (chunk, true, physical) ∈ journal.translations ∧
      (access.write = true → (chunk, physical, cut transfer.bytes chunk.range) ∈ transfer.issued)
  intact : transfer.failed = false → ∀ entry ∈ journal.outcomes, ∃ physical data,
    entry.2 = .transferred physical true data ∧ physical ≠ 0 ∧
      (entry.1, true, physical) ∈ journal.translations ∧
      (access.write = true ∨ data.length = entry.1.size) ∧
      transfer.Placed access entry.1 physical data
  broken : transfer.failed = true → ∃ entry ∈ journal.outcomes, ¬ entry.2.Complete access entry.1
  result : ∀ result ∈ transfer.results,
    result = (!transfer.failed, if access.write ∨ transfer.failed then [] else transfer.bytes) ∧
      (transfer.failed = false → transfer.nextOffset = access.length)

namespace Transfer.Accounted

variable {access : Access} {payload : access.Payload} {transfer : Transfer}
  {journal : TransferJournal}

theorem start : Accounted access payload (access.begin payload) {} := by
  have bytes : (access.begin payload).bytes.length = access.length := by
    unfold Access.begin
    split
    · exact payload.2
    · exact List.length_replicate
  have kept : access.write = true → (access.begin payload).bytes = payload.1 := by
    intro write
    unfold Access.begin
    rw [if_pos write]
    rfl
  have blank : (access.begin payload).nextOffset = 0 ∧ (access.begin payload).calls = [] ∧
      (access.begin payload).inFlight = 0 ∧ (access.begin payload).failed = false ∧
      (access.begin payload).results = [] := by
    unfold Access.begin
    split <;> exact ⟨rfl, rfl, rfl, rfl, rfl⟩
  obtain ⟨next, calls, inFlight, failed, results⟩ := blank
  refine ⟨?_, by simp, ?_, ?_, bytes, kept, ?_, by simp, ?_, ?_⟩
  · rw [next]
    rfl
  · rw [calls]
    exact .refl _
  · rw [inFlight]
    exact Nat.zero_le _
  · intro chunk physical member
    rw [calls] at member
    cases member
  · intro broken
    rw [failed] at broken
    cases broken
  · intro result member
    rw [results] at member
    cases member

theorem resume (accounted : Accounted access payload transfer journal) :
    Accounted access payload transfer.resume journal := by
  unfold Transfer.resume
  split
  · exact accounted
  · exact { accounted with }

theorem issue (accounted : Accounted access payload transfer journal)
    (sound : transfer.Sound access) (running : transfer.advancing = true)
    (may : transfer.mayIssue access = true) :
    Accounted access payload (transfer.issue access)
      { journal with started := journal.started ++ [access.chunkAt transfer.nextOffset] } := by
  simp only [mayIssue, Bool.and_eq_true, Bool.not_eq_true', decide_eq_true_eq] at may
  obtain ⟨⟨intact, room⟩, inside⟩ := may
  refine ⟨?_, ?_, ?_, room, accounted.length, accounted.payload_kept, ?_, accounted.intact,
    accounted.broken, ?_⟩
  · rw [List.map_append]
    exact accounted.tiling.append _
  · intro chunk member
    rcases List.mem_append.mp member with old | new
    · exact accounted.pieces chunk old
    · obtain rfl := List.mem_singleton.mp new
      exact sound.piece inside
  · simp only [Transfer.issue, List.map_append, List.map_cons, List.map_nil, Call.chunk]
    refine List.Perm.trans ?_ (accounted.split.append_right _)
    rw [List.append_assoc, List.append_assoc]
    exact List.perm_append_comm.append_left _
  · intro chunk physical member
    rcases List.mem_append.mp member with old | new
    · exact accounted.dma chunk physical old
    · cases List.mem_singleton.mp new
  · intro result member
    have unfinished : transfer.done = false := by
      cases done : transfer.done with
      | false => rfl
      | true => exact absurd (running.symm.trans (sound.finished done).2.2) (by decide)
    have none := sound.unfinished unfinished
    have results : result ∈ transfer.results := member
    rw [none] at results
    cases results

theorem settle (accounted : Accounted access payload transfer journal)
    (sound : transfer.Sound access) (running : transfer.advancing = true) :
    Accounted access payload (transfer.settle access) journal := by
  have unfinished : transfer.done = false := by
    cases done : transfer.done with
    | false => rfl
    | true => exact absurd (running.symm.trans (sound.finished done).2.2) (by decide)
  have none := sound.unfinished unfinished
  unfold Transfer.settle
  dsimp only
  split
  · rename_i ends
    refine { accounted with result := ?_ }
    intro result member
    rw [none, List.nil_append] at member
    obtain rfl := List.mem_singleton.mp member
    refine ⟨rfl, ?_⟩
    intro intact
    have empty : transfer.calls = [] := by
      rw [← List.length_eq_zero_iff, ← sound.counted]
      exact ends.1
    have balance := sound.bytes intact
    have finished : transfer.completedBytes = access.length :=
      ends.2.resolve_left fun broken => absurd (broken.symm.trans intact) (by decide)
    simp only [Transfer.pending, empty, List.map_nil, List.sum_nil] at balance
    show transfer.nextOffset = access.length
    omega
  · exact { accounted with }

/-- The pieces are different, so that a piece ends at most once. -/
theorem nodup (accounted : Accounted access payload transfer journal) :
    journal.started.Nodup := by
  refine List.Pairwise.imp_of_mem ?_ (List.pairwise_map.mp accounted.tiling.ordered)
  rintro left right leftMember - order rfl
  have piece := accounted.pieces left leftMember
  have positive := Access.chunkAt_size_pos piece.inside
  rw [← piece.size] at positive
  unfold Chunk.range at order
  dsimp only at order
  omega

theorem apart (accounted : Accounted access payload transfer journal) {left right : Chunk}
    (leftMember : left ∈ journal.started) (rightMember : right ∈ journal.started)
    (different : left ≠ right) :
    left.range.1 + left.range.2 ≤ right.range.1 ∨
      right.range.1 + right.range.2 ≤ left.range.1 := by
  let Apart (left right : Chunk) : Prop := left.range.1 + left.range.2 ≤ right.range.1 ∨
    right.range.1 + right.range.2 ≤ left.range.1
  have symmetric : Std.Symm Apart := ⟨fun _ _ => Or.symm⟩
  have either : journal.started.Pairwise Apart :=
    (List.pairwise_map.mp accounted.tiling.ordered).imp fun order => .inl order
  exact either.forall leftMember rightMember different

theorem inside (accounted : Accounted access payload transfer journal) {chunk : Chunk}
    (member : chunk ∈ journal.started) :
    chunk.range.1 + chunk.range.2 ≤ transfer.bytes.length := by
  have piece := accounted.pieces chunk member
  have within := Access.chunkAt_le piece.inside
  rw [← piece.size] at within
  rw [accounted.length]
  exact within

section Returned

variable {index : Nat} {call : Call}

/-- The call that returns is one of a piece that has not ended. -/
theorem returned (accounted : Accounted access payload transfer journal)
    (held : transfer.calls[index]? = some call) (outcome : Outcome) :
    (((transfer.without index).calls.map Call.chunk) ++
        (journal.outcomes ++ [(call.chunk, outcome)]).map Prod.fst).Perm journal.started ∧
      call.chunk ∈ journal.started ∧
      ∀ entry ∈ journal.outcomes, entry.1 ∈ journal.started ∧ entry.1 ≠ call.chunk := by
  obtain ⟨bound, rfl⟩ := List.getElem?_eq_some_iff.mp held
  have out := (List.getElem_cons_eraseIdx_perm bound).map Call.chunk
  have front : (transfer.calls[index].chunk :: ((transfer.without index).calls.map Call.chunk ++
      journal.outcomes.map Prod.fst)).Perm journal.started :=
    (out.append_right _).trans accounted.split
  refine ⟨?_, ?_, ?_⟩
  · rw [List.map_append, List.map_cons, List.map_nil, ← List.append_assoc]
    exact (List.perm_append_singleton _ _).trans front
  · exact front.subset List.mem_cons_self
  · intro entry member
    have listed : entry.1 ∈ (transfer.without index).calls.map Call.chunk ++
        journal.outcomes.map Prod.fst :=
      List.mem_append_right _ (List.mem_map_of_mem member)
    refine ⟨front.subset (List.mem_cons_of_mem _ listed), ?_⟩
    rintro same
    have distinct := front.nodup_iff.mpr accounted.nodup
    exact (List.nodup_cons.mp distinct).1 (same ▸ listed)

/-- A piece that ends in a failure, or after one. -/
theorem fail (accounted : Accounted access payload transfer journal)
    (sound : transfer.Sound access) (held : transfer.calls[index]? = some call)
    {outcome : Outcome} (translations : List (Chunk × Bool × Nat))
    (incomplete : ¬ outcome.Complete access call.chunk ∨ transfer.failed = true) :
    Accounted access payload
      { transfer.without index with failed := true, inFlight := transfer.inFlight - 1 }
      { journal with
        translations := journal.translations ++ translations
        outcomes := journal.outcomes ++ [(call.chunk, outcome)] } := by
  obtain ⟨split, -, -⟩ := accounted.returned held outcome
  refine ⟨accounted.tiling, accounted.pieces, split,
    Nat.le_trans (Nat.sub_le _ _) accounted.window, accounted.length, accounted.payload_kept,
    ?_, ?_, ?_, ?_⟩
  · intro chunk physical member
    obtain ⟨nonzero, translated, issued⟩ :=
      accounted.dma chunk physical (List.mem_of_mem_eraseIdx member)
    exact ⟨nonzero, List.mem_append_left _ translated, issued⟩
  · intro intact
    cases intact
  · intro _
    rcases incomplete with here | before
    · exact ⟨_, List.mem_append_right _ (List.mem_singleton.mpr rfl), here⟩
    · obtain ⟨entry, member, bad⟩ := accounted.broken before
      exact ⟨entry, List.mem_append_left _ member, bad⟩
  · intro result member
    have none := sound.unfinished (sound.returned held).1
    have results : result ∈ transfer.results := member
    rw [none] at results
    cases results

end Returned

theorem translated (accounted : Accounted access payload transfer journal)
    (sound : transfer.Sound access) {index : Nat} {chunk : Chunk}
    (held : transfer.calls[index]? = some (.translation chunk)) (ok : Bool) (physical : Nat)
    (after : Transfer) :
    Accounted access payload ((transfer.without index).translated access chunk ok physical)
      (journal.record access transfer (.translated index ok physical) after) := by
  simp only [TransferJournal.record, held]
  unfold Transfer.translated
  have flag : (transfer.without index).failed = transfer.failed := rfl
  rw [flag]
  by_cases refused : transfer.failed = true ∨ ok = false ∨ physical = 0
  · rw [if_pos refused, if_pos refused]
    exact (accounted.fail sound held _ (.inl id)).resume
  · rw [if_neg refused, if_neg refused]
    simp only [not_or, Bool.not_eq_false, Bool.not_eq_true] at refused
    obtain ⟨intact, success, nonzero⟩ := refused
    obtain ⟨bound, call⟩ := List.getElem?_eq_some_iff.mp held
    have out := (List.getElem_cons_eraseIdx_perm bound).map Call.chunk
    rw [call] at out
    refine ⟨accounted.tiling, accounted.pieces, ?_, accounted.window, accounted.length,
      accounted.payload_kept, ?_, ?_, accounted.broken, ?_⟩
    · rw [List.map_append]
      exact (((List.perm_append_singleton _ _).trans out).append_right _).trans accounted.split
    · intro other place member
      rcases List.mem_append.mp member with old | new
      · obtain ⟨positive, translated, issued⟩ :=
          accounted.dma other place (List.mem_of_mem_eraseIdx old)
        exact ⟨positive, List.mem_append_left _ translated,
          fun write => List.mem_append_left _ (issued write)⟩
      · cases List.mem_singleton.mp new
        refine ⟨nonzero, List.mem_append_right _ (by simp [success]), ?_⟩
        intro write
        refine List.mem_append_right _ (List.mem_singleton.mpr ?_)
        rw [if_pos write]
        rfl
    · intro _ entry member
      obtain ⟨place, data, ended, positive, translated, size, placed⟩ :=
        accounted.intact intact entry member
      refine ⟨place, data, ended, positive, List.mem_append_left _ translated, size, ?_⟩
      unfold Placed at placed ⊢
      split
      · rename_i write
        rw [if_pos write] at placed
        exact List.mem_append_left _ placed
      · rename_i read
        rw [if_neg read] at placed
        exact placed
    · intro result member
      have none := sound.unfinished (sound.returned held).1
      have results : result ∈ transfer.results := member
      rw [none] at results
      cases results

/-- A piece whose DMA has succeeded, before any failure or in a write. -/
theorem succeed (accounted : Accounted access payload transfer journal)
    (sound : transfer.Sound access) {index physical : Nat} {chunk : Chunk}
    (held : transfer.calls[index]? = some (.dma chunk physical)) {bytes data : Bytes}
    (size : access.write = true ∨ data.length = chunk.size)
    (stored : bytes = if access.write then transfer.bytes
      else splice transfer.bytes chunk.range data)
    (completed : Nat) :
    Accounted access payload
      { transfer.without index with
        bytes := bytes, inFlight := transfer.inFlight - 1, completedBytes := completed }
      { journal with
        outcomes := journal.outcomes ++ [(chunk, .transferred physical true data)] } := by
  obtain ⟨split, started, others⟩ := accounted.returned held (.transferred physical true data)
  have listed : .dma chunk physical ∈ transfer.calls := List.mem_of_getElem? held
  obtain ⟨nonzero, translated, issued⟩ := accounted.dma chunk physical listed
  have inside : chunk.range.1 + chunk.range.2 ≤ transfer.bytes.length := accounted.inside started
  -- the bytes of the other pieces stay as they are
  have kept (other : Chunk) (member : other ∈ journal.started) (different : other ≠ chunk) :
      cut bytes other.range = cut transfer.bytes other.range := by
    rw [stored]
    split
    · rfl
    · rename_i read
      exact cut_splice_apart inside (size.resolve_left read)
        (accounted.apart started member (Ne.symm different))
  have written (write : access.write = true) : bytes = transfer.bytes := by
    rw [stored, if_pos write]
  refine ⟨accounted.tiling, accounted.pieces, split,
    Nat.le_trans (Nat.sub_le _ _) accounted.window, ?_, ?_, ?_, ?_, ?_, ?_⟩
  · show bytes.length = access.length
    rw [stored]
    split
    · exact accounted.length
    · rename_i read
      rw [splice_length inside (size.resolve_left read), accounted.length]
  · intro write
    exact (written write).trans (accounted.payload_kept write)
  · intro other place member
    obtain ⟨positive, known, ready⟩ :=
      accounted.dma other place (List.mem_of_mem_eraseIdx member)
    refine ⟨positive, known, ?_⟩
    intro write
    show (other, place, cut bytes other.range) ∈ transfer.issued
    rw [written write]
    exact ready write
  · intro intact entry member
    rcases List.mem_append.mp member with old | new
    · obtain ⟨place, reply, ended, positive, known, whole, placed⟩ :=
        accounted.intact intact entry old
      refine ⟨place, reply, ended, positive, known, whole, ?_⟩
      have same := kept entry.1 (others entry old).1 (others entry old).2
      unfold Placed at placed ⊢
      dsimp only
      rw [same]
      exact placed
    · obtain rfl := List.mem_singleton.mp new
      refine ⟨physical, data, rfl, nonzero, translated, size, ?_⟩
      unfold Placed
      dsimp only
      split
      · rename_i write
        rw [written write]
        exact issued write
      · rename_i read
        rw [stored, if_neg read]
        exact (cut_splice_same inside (size.resolve_left read)).symm
  · intro failed
    obtain ⟨entry, member, bad⟩ := accounted.broken failed
    exact ⟨entry, List.mem_append_left _ member, bad⟩
  · intro result member
    have none := sound.unfinished (sound.returned held).1
    have results : result ∈ transfer.results := member
    rw [none] at results
    cases results

theorem transferred (accounted : Accounted access payload transfer journal)
    (sound : transfer.Sound access) {index physical : Nat} {chunk : Chunk}
    (held : transfer.calls[index]? = some (.dma chunk physical)) (ok : Bool) (data : Bytes)
    (after : Transfer) :
    Accounted access payload ((transfer.without index).transferred access chunk ok data)
      (journal.record access transfer (.transferred index ok data) after) := by
  simp only [TransferJournal.record, held]
  have failing (incomplete : ¬ Outcome.Complete access chunk (.transferred physical ok data) ∨
      transfer.failed = true) :
      Accounted access payload
        { transfer.without index with failed := true, inFlight := transfer.inFlight - 1 }
        { journal with
          outcomes := journal.outcomes ++ [(chunk, .transferred physical ok data)] } := by
    have done := accounted.fail sound held [] incomplete
    rwa [List.append_nil] at done
  unfold Transfer.transferred
  dsimp only
  by_cases write : access.write = true
  · rw [if_pos write]
    cases ok with
    | true =>
        rw [if_pos rfl]
        exact (accounted.succeed sound held (.inl write) (by rw [if_pos write]; rfl) _).resume
    | false =>
        rw [if_neg Bool.false_ne_true]
        exact (failing (.inl fun complete => Bool.false_ne_true complete.1)).resume
  · rw [if_neg write]
    by_cases bad : ok = false ∨ data.length ≠ chunk.size
    · rw [if_pos bad]
      refine (failing (.inl ?_)).resume
      rintro ⟨success, size⟩
      rcases bad with failure | short
      · exact absurd (success.symm.trans failure) (by decide)
      · exact short (size.resolve_left write)
    · rw [if_neg bad]
      simp only [not_or, Bool.not_eq_false, not_not] at bad
      obtain ⟨rfl, size⟩ := bad
      by_cases broken : transfer.failed = true
      · have done := failing (.inr broken)
        have same : (transfer.without index).failed = true := broken
        have unchanged : ({ transfer.without index with
            failed := true, inFlight := transfer.inFlight - 1 } : Transfer) =
              { transfer.without index with inFlight := transfer.inFlight - 1 } := by
          rw [← same]
        rw [if_pos same]
        rw [unchanged] at done
        exact done.resume
      · have intact : ¬ (transfer.without index).failed = true := broken
        rw [if_neg intact]
        exact (accounted.succeed sound held (.inr size) (by rw [if_neg write]; rfl) _).resume

theorem step (accounted : Accounted access payload transfer journal)
    (sound : transfer.Sound access) {event : TransferEvent} {after : Transfer}
    (taken : transferStep access transfer event = some after) :
    Accounted access payload after (journal.record access transfer event after) := by
  cases event with
  | issue =>
      simp only [transferStep, Option.ite_none_right_eq_some, Option.some.injEq] at taken
      obtain ⟨⟨running, may⟩, rfl⟩ := taken
      exact accounted.issue sound running may
  | settle =>
      simp only [transferStep, Option.ite_none_right_eq_some, Option.some.injEq] at taken
      obtain ⟨⟨running, -⟩, rfl⟩ := taken
      exact accounted.settle sound running
  | translated index ok physical =>
      simp only [transferStep] at taken
      split at taken
      next chunk held =>
        obtain rfl := Option.some.inj taken
        exact accounted.translated sound held ok physical _
      next => cases taken
  | transferred index ok data =>
      simp only [transferStep] at taken
      split at taken
      next chunk physical held =>
        obtain rfl := Option.some.inj taken
        exact accounted.transferred sound held ok data _
      next => cases taken

theorem outcome_unique (accounted : Accounted access payload transfer journal)
    {first second : Chunk × Outcome} (firstMember : first ∈ journal.outcomes)
    (secondMember : second ∈ journal.outcomes) (same : first.1 = second.1) : first = second := by
  have distinct := accounted.split.nodup_iff.mpr accounted.nodup
  exact List.inj_on_of_nodup_map (List.nodup_append.mp distinct).2.1 firstMember secondMember same

/-- Once nothing is outstanding, the transfer has failed exactly when a piece has not
succeeded. -/
theorem intact_iff (accounted : Accounted access payload transfer journal)
    (drained : (journal.outcomes.map Prod.fst).Perm journal.started) :
    transfer.failed = false ↔ ∀ chunk ∈ journal.started, journal.Succeeded access chunk := by
  constructor
  · intro intact chunk member
    obtain ⟨entry, listed, rfl⟩ := List.mem_map.mp (drained.mem_iff.mpr member)
    obtain ⟨physical, data, ended, nonzero, translated, size, -⟩ :=
      accounted.intact intact entry listed
    refine ⟨physical, data, nonzero, translated, ?_, size⟩
    rw [← ended]
    exact listed
  · intro all
    by_contra broken
    obtain ⟨entry, listed, bad⟩ := accounted.broken (by simpa using broken)
    have member := drained.mem_iff.mp (List.mem_map_of_mem (f := Prod.fst) listed)
    obtain ⟨physical, data, nonzero, translated, ended, size⟩ := all entry.1 member
    have same := accounted.outcome_unique listed ended rfl
    rw [same] at bad
    exact bad ⟨rfl, size⟩

/-- The bytes of the transfer are those of its pieces, one after another. -/
theorem flatten (accounted : Accounted access payload transfer journal)
    (whole : transfer.nextOffset = access.length) :
    (journal.started.map fun chunk => cut transfer.bytes chunk.range).flatten =
      transfer.bytes := by
  have covered := accounted.tiling.flatten_cut transfer.bytes
  rw [List.map_map, whole, List.drop_zero, Nat.sub_zero, ← accounted.length, List.take_length]
    at covered
  exact covered

end Transfer.Accounted

/-! ## Every run of a transfer -/

/-- The bytes that the DMA reads of the pieces delivered, or those that their DMA writes
were given at the translated addresses. -/
def TransferJournal.Moved (journal : TransferJournal) (access : Access) (transfer : Transfer)
    (chunk : Chunk) (data : Bytes) : Prop :=
  if access.write then
    ∃ physical, (chunk, true, physical) ∈ journal.translations ∧
      (chunk, physical, data) ∈ transfer.issued
  else ∃ physical, (chunk, .transferred physical true data) ∈ journal.outcomes

structure TokenDmaExact (access : Access) (payload : access.Payload) (transfer : Transfer)
    (journal : TransferJournal) : Prop where
  once : transfer.results.length ≤ 1
  drained : transfer.results ≠ [] →
    transfer.calls = [] ∧ (journal.outcomes.map Prod.fst).Perm journal.started
  ends : transfer.Quiet → transfer.results.length = 1
  /-- A transfer that is not at rest has a step, and no run of steps is infinite. -/
  live : transfer.Quiet ∨ ∃ event after, transferStep access transfer event = some after
  bounded : ∀ event after, transferStep access transfer event = some after →
    after.weight access < transfer.weight access
  window : transfer.calls.length ≤ max 1 access.maxOutstanding
  tiling : Tiling 0 (journal.started.map Chunk.range) transfer.nextOffset
  page : ∀ chunk ∈ journal.started, 0 < chunk.size ∧
    access.current chunk.offset % 4096 + chunk.size ≤ 4096
  success : ∀ result ∈ transfer.results,
    (result.1 = true ↔ ∀ chunk ∈ journal.started, journal.Succeeded access chunk)
  whole : ∀ result ∈ transfer.results, result.1 = true → transfer.nextOffset = access.length
  bytes : ∀ result ∈ transfer.results, result.1 = true →
    ∃ parts, List.Forall₂ (journal.Moved access transfer) journal.started parts ∧
      parts.flatten = if access.write then payload.1 else result.2

theorem accounted_of_reaches {access : Access} {payload : access.Payload} {transfer : Transfer}
    {journal : TransferJournal}
    (reached : Reaches (recorded (transferStep access) (TransferJournal.record access))
      (recordedGuard always) (access.begin payload, {}) (transfer, journal)) :
    transfer.Sound access ∧ transfer.Accounted access payload journal := by
  have start : (access.begin payload).Sound access := by
    unfold Access.begin
    split <;> exact Transfer.start_sound _
  refine reached.recorded_induction
    (fun transfer journal => transfer.Sound access ∧ transfer.Accounted access payload journal)
    ⟨start, .start⟩ ?_
  intro before event after journal _ kept taken _
  exact ⟨Transfer.step_sound kept.1 taken, kept.2.step kept.1 taken⟩

/-- A token transfer, whatever the order in which its callbacks run. -/
theorem token_dma_exact {access : Access} {payload : access.Payload} {transfer : Transfer}
    {journal : TransferJournal}
    (reached : Reaches (recorded (transferStep access) (TransferJournal.record access))
      (recordedGuard always) (access.begin payload, {}) (transfer, journal)) :
    TokenDmaExact access payload transfer journal := by
  obtain ⟨sound, accounted⟩ := accounted_of_reaches reached
  have done (result : Bool × Bytes) (member : result ∈ transfer.results) :
      transfer.done = true := by
    by_contra unfinished
    rw [sound.unfinished (by simpa using unfinished)] at member
    cases member
  have quiet (finished : transfer.done = true) :
      transfer.calls = [] ∧ (journal.outcomes.map Prod.fst).Perm journal.started := by
    have calls := (sound.finished finished).2.1
    have split := accounted.split
    rw [calls, List.map_nil, List.nil_append] at split
    exact ⟨calls, split⟩
  have flag (result : Bool × Bytes) (member : result ∈ transfer.results) :
      result.1 = true ↔ transfer.failed = false := by
    rw [(accounted.result result member).1]
    simp
  refine
    { once := ?_
      drained := ?_
      ends := fun rest => sound.completed_single rest.2 rest.1
      live := or_iff_not_imp_left.mpr (Transfer.exists_step access)
      bounded := fun _ _ taken => Transfer.step_weight taken
      window := sound.counted ▸ accounted.window
      tiling := accounted.tiling
      page := ?_
      success := ?_
      whole := ?_
      bytes := ?_ }
  · cases finished : transfer.done with
    | false => simp [sound.unfinished finished]
    | true => exact Nat.le_of_eq (sound.finished finished).1
  · intro some_
    obtain ⟨result, member⟩ := List.exists_mem_of_ne_nil _ some_
    exact quiet (done result member)
  · intro chunk member
    have piece := accounted.pieces chunk member
    have positive := Access.chunkAt_size_pos piece.inside
    rw [← piece.size] at positive
    have bound : (access.chunkAt chunk.offset).size ≤
        4096 - access.current chunk.offset % 4096 := Nat.min_le_right _ _
    rw [← piece.size] at bound
    omega
  · intro result member
    rw [flag result member]
    exact accounted.intact_iff (quiet (done result member)).2
  · intro result member success
    exact (accounted.result result member).2 ((flag result member).mp success)
  · intro result member success
    have intact := (flag result member).mp success
    obtain ⟨returned, next⟩ := accounted.result result member
    obtain ⟨-, drained⟩ := quiet (done result member)
    refine ⟨journal.started.map fun chunk => cut transfer.bytes chunk.range, ?_, ?_⟩
    · rw [List.forall₂_map_right_iff, List.forall₂_same]
      intro chunk started
      obtain ⟨entry, listed, rfl⟩ := List.mem_map.mp (drained.mem_iff.mpr started)
      obtain ⟨physical, data, ended, nonzero, translated, size, placed⟩ :=
        accounted.intact intact entry listed
      unfold TransferJournal.Moved
      unfold Transfer.Placed at placed
      split
      · rename_i write
        rw [if_pos write] at placed
        exact ⟨physical, translated, placed⟩
      · rename_i read
        rw [if_neg read] at placed
        refine ⟨physical, ?_⟩
        rw [← placed, ← ended]
        exact listed
    · rw [accounted.flatten (next intact), returned]
      split
      · rename_i write
        exact accounted.payload_kept write
      · rename_i read
        simp [read, intact]

/-- Two pieces on either side of a page boundary, whose callbacks run in the opposite
order. -/
def crossingRead : Access := ⟨0, 4094, 4, false, 2, Access.zero_token_lt, by decide⟩

theorem crossing_read_exact :
    ∃ transfer journal, TokenDmaExact crossingRead ⟨[0, 0, 0, 0], rfl⟩ transfer journal ∧
      transfer.results = [(true, [1, 2, 3, 4])] := by
  let events : List TransferEvent := [.issue, .issue, .settle, .translated 1 true 0x9000,
    .translated 0 true 0x5ffe, .transferred 0 true [3, 4], .settle,
    .transferred 0 true [1, 2], .settle]
  let payload : crossingRead.Payload := ⟨[0, 0, 0, 0], rfl⟩
  obtain ⟨⟨transfer, journal⟩, reached, seen⟩ := exists_of_execute
    (show (execute (recorded (transferStep crossingRead) (TransferJournal.record crossingRead))
      (recordedGuard always) events (crossingRead.begin payload, {})).map
        (fun pair => pair.1.results) = some [(true, [1, 2, 3, 4])] by decide +kernel)
  exact ⟨transfer, journal, token_dma_exact reached, seen⟩

end Udma.Ummu
