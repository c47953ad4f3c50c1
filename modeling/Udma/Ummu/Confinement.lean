import Udma.Ummu.Transfer
import Udma.Ummu.Transparency

/-!
# Confinement of transfers

A piece of a transfer is translated at its first byte and moved as a whole.  With
tables that do not change and no IOTLB, every byte moved is granted exactly when
the range that grants the first byte of a piece reaches its last one.
-/

namespace Udma.Ummu

open Abi (Bytes)
open Transition (Reaches execute exists_of_execute)

variable {memory : Memory} {tect : Nat} {context : Bytes} {access : Access}

namespace Access

variable (access : Access)

/-- The translation of the piece at an offset. -/
def requestAt (offset : Nat) : Request :=
  ⟨access.token, access.current offset, access.write, access.token_lt,
    Nat.mod_lt _ (by decide)⟩

theorem requestAt_token (offset : Nat) : (access.requestAt offset).token = access.token := rfl

theorem requestAt_address (offset : Nat) :
    (access.requestAt offset).address = access.current offset := rfl

theorem requestAt_write (offset : Nat) : (access.requestAt offset).write = access.write := rfl

/-- The same access with another number of pieces in flight. -/
def outstanding (count : Nat) : Access := { access with maxOutstanding := count }

/-- The states in which `ReadToken` or `WriteToken` enters its pump. -/
def Starts (transfer : Transfer) : Prop :=
  if access.write then ∃ data, data.length = access.length ∧ transfer = writeToken data
  else transfer = readToken access

end Access

/-- Translations give what a walk of the tables gives. -/
def Translates (memory : Memory) (tect : Nat) (access : Access) (before : Transfer)
    (event : TransferEvent) (_after : Transfer) : Prop :=
  match event with
  | .translated index ok physical =>
      match before.calls[index]? with
      | some (.translation chunk) =>
          (ok, physical) = fresh memory tect (access.requestAt chunk.offset)
      | _ => True
  | _ => True

instance (before : Transfer) (event : TransferEvent) (after : Transfer) :
    Decidable (Translates memory tect access before event after) := by
  unfold Translates
  split
  · split <;> infer_instance
  · infer_instance

/-- Every byte handed to the host lies in a range that grants the direction. -/
def Confined (memory : Memory) (context : Bytes) (access : Access) (transfer : Transfer) : Prop :=
  ∀ dma ∈ transfer.issued, ∀ byte < dma.1.size,
    Granted memory context (access.current dma.1.offset + byte) access.write

/-- A range that grants the first byte of a mapped piece reaches its last byte. -/
def PiecesGranted (memory : Memory) (context : Bytes) (access : Access) : Prop :=
  ∀ offset < access.length, (offset = 0 ∨ (access.address + offset) % 4096 = 0) →
    Granted memory context (access.current offset) access.write →
    (frame memory context (access.current offset)).1 = true →
    (frame memory context (access.current offset)).2 ≠ 0 →
    Granted memory context
      (access.current offset + ((access.chunkAt offset).size - 1)) access.write

/-! ## Pieces within ranges -/

/-- The bytes of a piece share its page. -/
theorem Access.chunkAt_page {offset byte : Nat} (inside : byte < (access.chunkAt offset).size) :
    access.current offset >>> 12 = (access.current offset + byte) >>> 12 := by
  have bound : byte < 4096 - access.current offset % 4096 := by
    unfold chunkAt at inside
    dsimp only at inside
    omega
  rw [Nat.shiftRight_eq_div_pow, Nat.shiftRight_eq_div_pow]
  omega

/-- What lies in a page between two granted addresses is granted. -/
theorem Granted.between {first byte last : Nat} {write : Bool}
    (start : Granted memory context first write) (finish : Granted memory context last write)
    (samePage : first >>> 12 = byte >>> 12) (lastPage : first >>> 12 = last >>> 12)
    (after : first ≤ byte) (before : byte ≤ last) : Granted memory context byte write := by
  obtain ⟨range, governs, low, _⟩ := start
  obtain ⟨other, otherGoverns, _, high⟩ := finish
  rw [← maptRange_congr lastPage, governs] at otherGoverns
  obtain rfl := Option.some.inj otherGoverns
  refine ⟨range, ?_, Nat.le_trans low after, Nat.le_trans before high⟩
  rw [← maptRange_congr samePage]
  exact governs

/-! ## Runs -/

/-- The first byte of every piece handed to the host is granted and mapped. -/
def Checked (memory : Memory) (context : Bytes) (access : Access) (transfer : Transfer) : Prop :=
  ∀ dma ∈ transfer.issued, Granted memory context (access.current dma.1.offset) access.write ∧
    frame memory context (access.current dma.1.offset) = (true, dma.2.1) ∧ dma.2.1 ≠ 0

@[simp]
theorem Transfer.resume_issued (transfer : Transfer) : transfer.resume.issued = transfer.issued := by
  unfold Transfer.resume
  split <;> rfl

/-- A successful translation of a checked token. -/
theorem granted_of_fresh (found : contextAt memory tect access.token = some context)
    (enabled : TctEntry.maptEnabled context = true) (small : access.token < entries)
    {offset physical : Nat}
    (result : (true, physical) = fresh memory tect (access.requestAt offset)) :
    Granted memory context (access.current offset) access.write ∧
      frame memory context (access.current offset) = (true, physical) := by
  have succeeds : (fresh memory tect (access.requestAt offset)).1 = true := by rw [← result]
  have smallRequest : (access.requestAt offset).token < entries := small
  obtain ⟨other, same, permitted, _⟩ := (fresh_succeeds_iff smallRequest).mp succeeds
  rw [Access.requestAt_token, found] at same
  obtain rfl := Option.some.inj same
  have walked := fresh_of_permitted smallRequest found permitted
  rw [← result, Access.requestAt_address] at walked
  rw [Access.requestAt_address, Access.requestAt_write] at permitted
  refine ⟨?_, walked.symm⟩
  rcases permitted with disabled | granted
  · exact absurd (enabled.symm.trans disabled) (by decide)
  · exact granted

theorem step_checked (found : contextAt memory tect access.token = some context)
    (enabled : TctEntry.maptEnabled context = true) (small : access.token < entries)
    {before after : Transfer} {event : TransferEvent} (checked : Checked memory context access before)
    (taken : transferStep access before event = some after)
    (translates : Translates memory tect access before event after) :
    Checked memory context access after := by
  cases event with
  | issue =>
      simp only [transferStep, Option.ite_none_right_eq_some, Option.some.injEq] at taken
      obtain ⟨_, rfl⟩ := taken
      exact checked
  | settle =>
      simp only [transferStep, Option.ite_none_right_eq_some, Option.some.injEq] at taken
      obtain ⟨_, rfl⟩ := taken
      unfold Transfer.settle
      dsimp only
      split <;> exact checked
  | translated index ok physical =>
      simp only [transferStep] at taken
      split at taken
      next chunk held =>
        obtain rfl := Option.some.inj taken
        simp only [Translates, held] at translates
        unfold Transfer.translated
        split
        · intro dma membership
          exact checked dma (by simpa [Transfer.without] using membership)
        next proceeds =>
          intro dma membership
          rcases List.mem_append.mp membership with old | new
          · exact checked dma old
          · obtain rfl := List.mem_singleton.mp new
            simp only [not_or, Bool.not_eq_false] at proceeds
            obtain ⟨_, rfl, nonzero⟩ := proceeds
            obtain ⟨granted, mapped⟩ := granted_of_fresh found enabled small translates
            exact ⟨granted, mapped, nonzero⟩
      next => cases taken
  | transferred index ok data =>
      simp only [transferStep] at taken
      split at taken
      next chunk physical held =>
        obtain rfl := Option.some.inj taken
        have same : ((before.without index).transferred access chunk ok data).issued =
            before.issued := by
          unfold Transfer.transferred
          dsimp only
          repeat' split
          all_goals simp [Transfer.without]
        intro dma membership
        exact checked dma (same ▸ membership)
      next => cases taken

theorem Access.Starts.bytes {transfer : Transfer} (starts : access.Starts transfer) :
    ∃ bytes, transfer = { bytes := bytes } := by
  unfold Starts at starts
  split at starts
  · obtain ⟨data, _, rfl⟩ := starts
    exact ⟨data, rfl⟩
  · exact ⟨_, starts⟩

theorem confined_of_granted (access : Access)
    (found : contextAt memory tect access.token = some context)
    (enabled : TctEntry.maptEnabled context = true) (small : access.token < entries)
    (whole : PiecesGranted memory context access) {start transfer : Transfer}
    (starts : access.Starts start)
    (reached : Reaches (transferStep access) (Translates memory tect access) start transfer) :
    Confined memory context access transfer := by
  obtain ⟨bytes, rfl⟩ := starts.bytes
  have sound := Transfer.sound_of_reaches reached
  have checked : Checked memory context access transfer := by
    apply reached.invariant
    · intro dma membership
      cases membership
    · intro before event after checked taken translates
      exact step_checked found enabled small checked taken translates
  intro dma membership byte inside
  have piece := sound.issued dma membership
  obtain ⟨granted, mapped, nonzero⟩ := checked dma membership
  have size := congrArg Chunk.size piece.size
  rw [size] at inside
  have last := whole dma.1.offset piece.inside piece.starts granted (by rw [mapped])
    (by rw [mapped]; exact nonzero)
  apply granted.between last
  · exact Access.chunkAt_page inside
  · exact Access.chunkAt_page (by omega)
  · omega
  · omega

/-! ## A piece that leaves its range -/

/-- The piece before a page boundary. -/
theorem Access.chunk_before {offset : Nat} (positive : 0 < offset) (inside : offset < access.length)
    (aligned : (access.address + offset) % 4096 = 0) :
    ∃ earlier < offset, (earlier = 0 ∨ (access.address + earlier) % 4096 = 0) ∧
      earlier + (access.chunkAt earlier).size = offset := by
  by_cases firstPage : offset ≤ 4096 - access.address % 4096
  · refine ⟨0, positive, .inl rfl, ?_⟩
    have page := access.current_mod 0
    unfold chunkAt
    dsimp only
    omega
  · refine ⟨offset - 4096, by omega, .inr (by omega), ?_⟩
    have page := access.current_mod (offset - 4096)
    unfold chunkAt
    dsimp only
    omega

/-- With enough pieces in flight the pump can hand out all pieces before a given one. -/
theorem exists_issuing (memory : Memory) (tect : Nat) (wide : access.length < access.limit)
    (bytes : Bytes) {offset : Nat} (inside : offset < access.length)
    (starts : offset = 0 ∨ (access.address + offset) % 4096 = 0) :
    ∃ transfer : Transfer, Reaches (transferStep access) (Translates memory tect access)
        { bytes := bytes } transfer ∧ transfer.advancing = true ∧ transfer.failed = false ∧
      transfer.nextOffset = offset ∧ transfer.inFlight ≤ offset := by
  induction offset using Nat.strongRecOn with
  | ind offset inductionHypothesis =>
      by_cases first : offset = 0
      · subst first
        exact ⟨_, .refl, rfl, rfl, rfl, Nat.le_refl _⟩
      · obtain ⟨earlier, before, earlierStarts, size⟩ := Access.chunk_before
          (Nat.pos_of_ne_zero first) inside (starts.resolve_left first)
        obtain ⟨transfer, reached, running, intact, next, flying⟩ :=
          inductionHypothesis earlier before (Nat.lt_trans before inside) earlierStarts
        have may : transfer.mayIssue access = true := by
          simp only [Transfer.mayIssue, intact, next, Bool.not_false, Bool.true_and,
            Bool.and_eq_true, decide_eq_true_eq]
          omega
        have taken : transferStep access transfer .issue = some (transfer.issue access) := by
          simp [transferStep, running, may]
        have grows := Access.chunkAt_size_pos (Nat.lt_trans before inside)
        refine ⟨transfer.issue access, reached.tail taken trivial, running, intact, ?_, ?_⟩
        · simp [Transfer.issue, next, size]
        · simp only [Transfer.issue]
          omega

/-- A piece whose first byte is granted and mapped can be handed to the host. -/
theorem exists_issued (access : Access)
    (found : contextAt memory tect access.token = some context) (small : access.token < entries) (wide : access.length < access.limit) (bytes : Bytes)
    {offset : Nat} (inside : offset < access.length)
    (starts : offset = 0 ∨ (access.address + offset) % 4096 = 0)
    (granted : Granted memory context (access.current offset) access.write)
    (mapped : (frame memory context (access.current offset)).1 = true)
    (nonzero : (frame memory context (access.current offset)).2 ≠ 0) :
    ∃ transfer : Transfer, Reaches (transferStep access) (Translates memory tect access)
        { bytes := bytes } transfer ∧
      ∃ dma ∈ transfer.issued, dma.1 = access.chunkAt offset := by
  obtain ⟨transfer, reached, running, intact, next, flying⟩ :=
    exists_issuing memory tect wide bytes inside starts
  have may : transfer.mayIssue access = true := by
    simp only [Transfer.mayIssue, intact, next, Bool.not_false, Bool.true_and,
      Bool.and_eq_true, decide_eq_true_eq]
    omega
  have taken : transferStep access transfer .issue = some (transfer.issue access) := by
    simp [transferStep, running, may]
  have held : (transfer.issue access).calls[transfer.calls.length]? =
      some (.translation (access.chunkAt offset)) := by
    simp [Transfer.issue, next]
  have walked : fresh memory tect (access.requestAt offset) =
      (true, (frame memory context (access.current offset)).2) := by
    have smallRequest : (access.requestAt offset).token < entries := small
    rw [fresh_of_permitted smallRequest found (.inr granted), Access.requestAt_address]
    exact Prod.ext mapped rfl
  generalize (frame memory context (access.current offset)).2 = physical at nonzero walked
  have answered : transferStep access (transfer.issue access)
      (.translated transfer.calls.length true physical) =
      some (((transfer.issue access).without transfer.calls.length).translated access
        (access.chunkAt offset) true physical) := by
    simp only [transferStep, held]
  have translates : Translates memory tect access (transfer.issue access)
      (.translated transfer.calls.length true physical)
      (((transfer.issue access).without transfer.calls.length).translated access
        (access.chunkAt offset) true physical) := by
    simp only [Translates, held]
    exact walked.symm
  refine ⟨_, (reached.tail taken trivial).tail answered translates, ?_⟩
  have proceeds : ¬ (((transfer.issue access).without transfer.calls.length).failed = true ∨
      true = false ∨ physical = 0) := by
    simp [Transfer.without, Transfer.issue, intact, nonzero]
  unfold Transfer.translated
  rw [if_neg proceeds]
  exact ⟨_, List.mem_append_right _ (List.mem_singleton_self _), rfl⟩

/-- An access of a checked token is confined, however many pieces are in flight,
exactly when no piece leaves the range that grants its first byte. -/
theorem confined_iff (access : Access)
    (found : contextAt memory tect access.token = some context)
    (enabled : TctEntry.maptEnabled context = true) (small : access.token < entries) :
    (∀ count start transfer, (access.outstanding count).Starts start →
      Reaches (transferStep (access.outstanding count))
        (Translates memory tect (access.outstanding count)) start transfer →
      Confined memory context (access.outstanding count) transfer) ↔
      PiecesGranted memory context access := by
  constructor
  · intro confined offset inside starts granted mapped nonzero
    have wide : (access.outstanding (access.length + 1)).length <
        (access.outstanding (access.length + 1)).limit :=
      Nat.lt_of_lt_of_le (Nat.lt_succ_self access.length) (Nat.le_max_right _ _)
    obtain ⟨start, begins⟩ : ∃ start, (access.outstanding (access.length + 1)).Starts start := by
      unfold Access.Starts
      split
      · exact ⟨_, List.replicate access.length 0, List.length_replicate, rfl⟩
      · exact ⟨_, rfl⟩
    obtain ⟨bytes, rfl⟩ := begins.bytes
    obtain ⟨transfer, reached, dma, membership, same⟩ :=
      exists_issued (access.outstanding (access.length + 1)) found small wide bytes inside starts
        granted mapped nonzero
    have last := confined _ _ transfer begins reached dma membership
      ((access.chunkAt offset).size - 1)
    rw [same] at last
    exact last (Nat.sub_lt (Access.chunkAt_size_pos inside) Nat.one_pos)
  · intro whole count start transfer begins reached
    exact confined_of_granted (access.outstanding count) found enabled small whole begins reached

/-! ## A range of 256 bytes -/

/-- The context of token 0 in `narrowRange`. -/
def narrowContext : Bytes := (narrowRange ⟨0x2000, 64⟩).bytes

/-- A read of the first bytes of page 5 with token 0. -/
theorem pageFive_fits : 0x5000 < 2 ^ 64 := by decide

def pageFive (length : Nat) : Access :=
  ⟨0, 0x5000, length, false, 1, Access.zero_token_lt, pageFive_fits⟩

theorem narrow_context : contextAt narrowRange 0x1000 0 = some narrowContext := by
  decide +kernel

theorem narrow_range (byte : Nat) :
    maptRange narrowRange narrowContext byte false = some ⟨0x5000, 0x50ff⟩ := by
  have block : TctEntry.block narrowContext = 0xb000 := by decide +kernel
  have single : TctEntry.maptTable narrowContext = false := by decide +kernel
  unfold maptRange
  rw [if_neg (by rw [block]; decide), if_pos (by rw [single]; rfl), block]
  decide +kernel

/-- A read of exactly the range is confined. -/
theorem whole_range_confined :
    PiecesGranted narrowRange narrowContext (pageFive 256) ∧
      ∀ count start transfer, ((pageFive 256).outstanding count).Starts start →
        Reaches (transferStep ((pageFive 256).outstanding count))
          (Translates narrowRange 0x1000 ((pageFive 256).outstanding count)) start transfer →
        Confined narrowRange narrowContext ((pageFive 256).outstanding count) transfer := by
  have pieces : PiecesGranted narrowRange narrowContext (pageFive 256) := by
    intro offset inside starts granted mapped nonzero
    have first : offset = 0 := by
      simp only [pageFive] at inside starts
      omega
    subst first
    exact ⟨⟨0x5000, 0x50ff⟩, narrow_range _, by decide⟩
  exact ⟨pieces, (confined_iff (pageFive 256) narrow_context (by decide +kernel)
    (by decide)).mpr pieces⟩

/-- A read of twice the range is handed to the host whole. -/
theorem read_beyond_range :
    ∃ transfer, Reaches (transferStep (pageFive 512)) (Translates narrowRange 0x1000 (pageFive 512))
        (readToken (pageFive 512)) transfer ∧
      ¬ Confined narrowRange narrowContext (pageFive 512) transfer := by
  obtain ⟨transfer, reached, seen⟩ := exists_of_execute
    (show (execute (transferStep (pageFive 512)) (Translates narrowRange 0x1000 (pageFive 512))
        [.issue, .translated 0 true 0x9000] (readToken (pageFive 512))).map Transfer.issued =
      some [(⟨0, 512⟩, 0x9000, [])] by decide +kernel)
  refine ⟨transfer, reached, ?_⟩
  intro confined
  obtain ⟨range, governs, covers⟩ :=
    confined (⟨0, 512⟩, 0x9000, []) (by rw [seen]; exact List.mem_singleton_self _) 511 (by decide)
  have last : (pageFive 512).current 0 + 511 = 0x51ff := by decide
  rw [last] at governs covers
  have same : maptRange narrowRange narrowContext 0x51ff false = some ⟨0x5000, 0x50ff⟩ :=
    narrow_range _
  obtain rfl := Option.some.inj (same.symm.trans governs)
  exact absurd covers (by decide)

end Udma.Ummu
