import Mathlib
import Udma.Abi
import Udma.Transition.Run

/-!
# Transfers through a token

`ReadToken` and `WriteToken` split an access at page boundaries and keep a bounded
number of pieces in flight, each first in translation and then in a DMA.  Host
functions may run their callbacks before they return; the pump is then already
advancing, and the callback only leaves its result to it.  A step is one pass of
the pump's loop, its end, or a callback.
-/

namespace Udma.Ummu

open Abi (Bytes)
open Transition (Reaches always)

/-- The arguments of `ReadToken` and `WriteToken`. -/
structure Access where
  token : Nat
  address : Nat
  length : Nat
  write : Bool
  maxOutstanding : Nat
  token_lt : token < 2 ^ 32
  address_lt : address < 2 ^ 64

theorem Access.zero_token_lt : 0 < 2 ^ 32 := by decide

/-- A piece of an access, inside one page. -/
structure Chunk where
  offset : Nat
  size : Nat
  deriving DecidableEq, Repr

namespace Access

variable (access : Access)

def limit : Nat := max 1 access.maxOutstanding

/-- The 64-bit address of an offset. -/
def current (offset : Nat) : Nat := (access.address + offset) % 2 ^ 64

def chunkAt (offset : Nat) : Chunk :=
  ⟨offset, min (access.length - offset) (4096 - access.current offset % 4096)⟩

end Access

/-- A callback that a transfer waits for. -/
inductive Call where
  | translation (chunk : Chunk)
  | dma (chunk : Chunk) (physical : Nat)
  deriving DecidableEq, Repr

def Call.chunk : Call → Chunk
  | .translation chunk => chunk
  | .dma chunk _ => chunk

/-- `TokenReadState` and `TokenWriteState`: `bytes` is the buffer of a read or the data
of a write. -/
structure Transfer where
  bytes : Bytes
  nextOffset : Nat := 0
  completedBytes : Nat := 0
  inFlight : Nat := 0
  done : Bool := false
  failed : Bool := false
  advancing : Bool := true
  calls : List Call := []
  /-- History variable: the DMAs handed to the host, with the data of a write. -/
  issued : List (Chunk × Nat × Bytes) := []
  /-- History variable: the invocations of the completion. -/
  results : List (Bool × Bytes) := []

namespace Transfer

variable (access : Access) (transfer : Transfer)

/-- The loop condition of the pump. -/
def mayIssue : Bool :=
  !transfer.failed && decide (transfer.inFlight < access.limit) &&
    decide (transfer.nextOffset < access.length)

/-- One pass of the loop. -/
def issue : Transfer :=
  let chunk := access.chunkAt transfer.nextOffset
  { transfer with
    nextOffset := transfer.nextOffset + chunk.size
    inFlight := transfer.inFlight + 1
    calls := transfer.calls ++ [.translation chunk] }

/-- What follows the loop. -/
def settle : Transfer :=
  let paused := { transfer with advancing := false }
  if transfer.inFlight = 0 ∧ (transfer.failed ∨ transfer.completedBytes = access.length) then
    { paused with
      done := true
      results := transfer.results ++
        [(!transfer.failed, if access.write ∨ transfer.failed then [] else transfer.bytes)] }
  else paused

/-- `ContinueTokenRead` and `ContinueTokenWrite` up to their loop. -/
def resume : Transfer :=
  if transfer.done ∨ transfer.advancing then transfer else { transfer with advancing := true }

def slice (chunk : Chunk) : Bytes := (transfer.bytes.drop chunk.offset).take chunk.size

/-- The callback of a translation, whose call is no longer outstanding. -/
def translated (chunk : Chunk) (ok : Bool) (physical : Nat) : Transfer :=
  if transfer.failed ∨ ok = false ∨ physical = 0 then
    { transfer with failed := true, inFlight := transfer.inFlight - 1 }.resume
  else
    { transfer with
      calls := transfer.calls ++ [.dma chunk physical]
      issued := transfer.issued ++
        [(chunk, physical, if access.write then transfer.slice chunk else [])] }

/-- The buffer after a piece has been copied into it. -/
def copied (chunk : Chunk) (data : Bytes) : Bytes :=
  transfer.bytes.take chunk.offset ++ data ++ transfer.bytes.drop (chunk.offset + chunk.size)

/-- The callback of a DMA, whose call is no longer outstanding.  A write counts its
bytes even after another piece has failed. -/
def transferred (chunk : Chunk) (ok : Bool) (data : Bytes) : Transfer :=
  let returned := { transfer with inFlight := transfer.inFlight - 1 }
  if access.write then
    if ok then { returned with completedBytes := transfer.completedBytes + chunk.size }.resume
    else { returned with failed := true }.resume
  else if ok = false ∨ data.length ≠ chunk.size then { returned with failed := true }.resume
  else if transfer.failed then returned.resume
  else
    { returned with
      bytes := transfer.copied chunk data
      completedBytes := transfer.completedBytes + chunk.size }.resume

/-- Without the call at an index. -/
def without (index : Nat) : Transfer := { transfer with calls := transfer.calls.eraseIdx index }

end Transfer

/-- `ReadToken` up to the loop of the pump. -/
def readToken (access : Access) : Transfer := { bytes := List.replicate access.length 0 }

/-- `WriteToken` up to the loop of the pump. -/
def writeToken (data : Bytes) : Transfer := { bytes := data }

inductive TransferEvent where
  | issue
  | settle
  | translated (index : Nat) (ok : Bool) (physical : Nat)
  | transferred (index : Nat) (ok : Bool) (data : Bytes)

def transferStep (access : Access) (transfer : Transfer) : TransferEvent → Option Transfer
  | .issue =>
      if transfer.advancing ∧ transfer.mayIssue access then some (transfer.issue access) else none
  | .settle =>
      if transfer.advancing ∧ transfer.mayIssue access = false then some (transfer.settle access)
      else none
  | .translated index ok physical =>
      match transfer.calls[index]? with
      | some (.translation chunk) =>
          some ((transfer.without index).translated access chunk ok physical)
      | _ => none
  | .transferred index ok data =>
      match transfer.calls[index]? with
      | some (.dma chunk _) => some ((transfer.without index).transferred access chunk ok data)
      | _ => none

/-! ## Pieces -/

/-- A piece starts where the access or a page does and ends with the access or the page. -/
structure Access.Piece (access : Access) (chunk : Chunk) : Prop where
  inside : chunk.offset < access.length
  starts : chunk.offset = 0 ∨ (access.address + chunk.offset) % 4096 = 0
  size : chunk = access.chunkAt chunk.offset

namespace Access

variable {access : Access}

theorem current_mod (offset : Nat) :
    access.current offset % 4096 = (access.address + offset) % 4096 := by
  unfold current
  omega

theorem chunkAt_size_pos {offset : Nat} (inside : offset < access.length) :
    0 < (access.chunkAt offset).size := by
  unfold chunkAt
  dsimp only
  omega

theorem chunkAt_le {offset : Nat} (inside : offset < access.length) :
    offset + (access.chunkAt offset).size ≤ access.length := by
  unfold chunkAt
  dsimp only
  omega

/-- A piece that does not end the access ends its page. -/
theorem chunkAt_aligned {offset : Nat}
    (before : offset + (access.chunkAt offset).size < access.length) :
    (access.address + (offset + (access.chunkAt offset).size)) % 4096 = 0 := by
  have page := access.current_mod offset
  unfold chunkAt at *
  dsimp only at *
  omega

end Access

/-! ## The pump -/

/-- Number of bytes in translation or DMA. -/
def Transfer.pending (transfer : Transfer) : Nat :=
  (transfer.calls.map fun call => call.chunk.size).sum

/-- The accounts of a transfer, whether or not its pump is advancing. -/
structure Transfer.Kept (access : Access) (transfer : Transfer) : Prop where
  counted : transfer.inFlight = transfer.calls.length
  pieces : ∀ call ∈ transfer.calls, access.Piece call.chunk
  issued : ∀ dma ∈ transfer.issued, access.Piece dma.1
  next_le : transfer.nextOffset ≤ access.length
  starts : transfer.nextOffset = 0 ∨ transfer.nextOffset = access.length ∨
    (access.address + transfer.nextOffset) % 4096 = 0
  bytes : transfer.failed = false →
    transfer.completedBytes + transfer.pending = transfer.nextOffset
  unfinished : transfer.done = false → transfer.results = []
  finished : transfer.done = true →
    transfer.results.length = 1 ∧ transfer.calls = [] ∧ transfer.advancing = false

/-- A pump that has paused short of the end waits for a callback. -/
structure Transfer.Sound (access : Access) (transfer : Transfer) : Prop
    extends Transfer.Kept access transfer where
  waits : transfer.done = false → transfer.advancing = false → transfer.calls ≠ []

namespace Transfer

variable {access : Access} {transfer after : Transfer}

theorem Kept.resume (kept : transfer.Kept access) (unfinished : transfer.done = false) :
    transfer.resume.Sound access := by
  unfold Transfer.resume
  by_cases running : transfer.advancing = true
  · rw [if_pos (.inr running)]
    refine ⟨kept, ?_⟩
    intro _ paused
    simp [running] at paused
  · rw [if_neg (by simp [unfinished, running])]
    refine ⟨{ kept with finished := ?_ }, ?_⟩
    · intro done
      simp [unfinished] at done
    · intro _ paused
      cases paused

theorem start_sound (bytes : Bytes) : Sound access { bytes := bytes } where
  counted := rfl
  pieces := by simp
  issued := by simp
  next_le := Nat.zero_le _
  starts := .inl rfl
  bytes _ := rfl
  unfinished _ := rfl
  finished := by simp
  waits := by simp

theorem Kept.piece (kept : transfer.Kept access) (inside : transfer.nextOffset < access.length) :
    access.Piece (access.chunkAt transfer.nextOffset) where
  inside := inside
  starts := kept.starts.imp_right fun other => other.resolve_left (Nat.ne_of_lt inside)
  size := rfl

theorem Sound.issue (sound : transfer.Sound access) (running : transfer.advancing = true)
    (may : transfer.mayIssue access = true) : (transfer.issue access).Sound access := by
  simp only [mayIssue, Bool.and_eq_true, Bool.not_eq_true', decide_eq_true_eq] at may
  obtain ⟨⟨intact, _⟩, inside⟩ := may
  have piece := sound.piece inside
  have within := Access.chunkAt_le inside
  refine ⟨⟨?_, ?_, sound.issued, within, ?_, ?_, sound.unfinished, ?_⟩, ?_⟩
  · simp [Transfer.issue, sound.counted]
  · intro call membership
    rcases List.mem_append.mp membership with old | new
    · exact sound.pieces call old
    · obtain rfl := List.mem_singleton.mp new
      exact piece
  · right
    rcases Nat.lt_or_eq_of_le within with before | ends
    · exact .inr (Access.chunkAt_aligned before)
    · exact .inl ends
  · intro _
    have balance := sound.bytes intact
    simp only [Transfer.issue, pending, List.map_append, List.map_cons, List.map_nil,
      List.sum_append, List.sum_cons, List.sum_nil, Call.chunk] at balance ⊢
    omega
  · intro done
    exact absurd (running.symm.trans (sound.finished done).2.2) (by decide)
  · intro _ paused
    exact absurd (running.symm.trans paused) (by decide)

theorem Sound.settle (sound : transfer.Sound access) (running : transfer.advancing = true)
    (stops : transfer.mayIssue access = false) : (transfer.settle access).Sound access := by
  have unfinished : transfer.done = false := by
    cases done : transfer.done with
    | false => rfl
    | true => exact absurd (running.symm.trans (sound.finished done).2.2) (by decide)
  unfold Transfer.settle
  dsimp only
  by_cases idle : transfer.inFlight = 0
  · have empty : transfer.calls = [] := by
      rw [← List.length_eq_zero_iff, ← sound.counted]
      exact idle
    -- with nothing in flight the loop has stopped at a failure or at the end
    have ends : transfer.failed = true ∨ transfer.completedBytes = access.length := by
      by_cases broken : transfer.failed = true
      · exact .inl broken
      · right
        have intact : transfer.failed = false := by simpa using broken
        have balance := sound.bytes intact
        have bound := sound.next_le
        have positive : 0 < access.limit := Nat.le_max_left _ _
        simp [mayIssue, intact, idle, positive] at stops
        simp [pending, empty] at balance
        omega
    rw [if_pos ⟨idle, ends⟩]
    refine ⟨⟨sound.counted, sound.pieces, sound.issued, sound.next_le, sound.starts, sound.bytes,
      ?_, ?_⟩, ?_⟩
    · intro still
      cases still
    · intro _
      exact ⟨by simp [sound.unfinished unfinished], empty, rfl⟩
    · intro still
      cases still
  · rw [if_neg (fun both => idle both.1)]
    refine ⟨⟨sound.counted, sound.pieces, sound.issued, sound.next_le, sound.starts, sound.bytes,
      sound.unfinished, ?_⟩, ?_⟩
    · intro done
      simp [unfinished] at done
    · intro _ _ empty
      rw [sound.counted, empty] at idle
      exact idle rfl

/-- What is left of the accounts when one call has returned. -/
theorem Sound.returned (sound : transfer.Sound access) {index : Nat} {call : Call}
    (held : transfer.calls[index]? = some call) :
    transfer.done = false ∧ access.Piece call.chunk ∧
      transfer.inFlight = (transfer.without index).calls.length + 1 ∧
      (∀ other ∈ (transfer.without index).calls, access.Piece other.chunk) ∧
      transfer.pending = call.chunk.size + (transfer.without index).pending := by
  obtain ⟨inside, rfl⟩ := List.getElem?_eq_some_iff.mp held
  have split := List.getElem_cons_eraseIdx_perm inside
  refine ⟨?_, sound.pieces _ (List.getElem_mem inside), ?_, ?_, ?_⟩
  · cases done : transfer.done with
    | false => rfl
    | true =>
        have empty := (sound.finished done).2.1
        simp [empty] at inside
  · rw [sound.counted, ← split.length_eq]
    rfl
  · intro other membership
    exact sound.pieces other (List.mem_of_mem_eraseIdx membership)
  · unfold pending without
    rw [← (split.map fun call => call.chunk.size).sum_nat]
    rfl

theorem Sound.translated (sound : transfer.Sound access) {index : Nat} {chunk : Chunk}
    (held : transfer.calls[index]? = some (.translation chunk)) (ok : Bool) (physical : Nat) :
    ((transfer.without index).translated access chunk ok physical).Sound access := by
  obtain ⟨unfinished, piece, counted, pieces, pending⟩ := sound.returned held
  unfold Transfer.translated
  split
  next refused =>
    refine Kept.resume ?_ (show (transfer.without index).done = false from unfinished)
    refine ⟨?_, pieces, sound.issued, sound.next_le, sound.starts, ?_, sound.unfinished, ?_⟩
    · show transfer.inFlight - 1 = (transfer.without index).calls.length
      omega
    · intro intact
      cases intact
    · intro done
      exact absurd (unfinished.symm.trans done) (by decide)
  next proceeds =>
    refine ⟨⟨?_, ?_, ?_, sound.next_le, sound.starts, ?_, sound.unfinished, ?_⟩, ?_⟩
    · simpa [without] using counted
    · intro call membership
      rcases List.mem_append.mp membership with old | new
      · exact pieces call old
      · obtain rfl := List.mem_singleton.mp new
        exact piece
    · intro dma membership
      rcases List.mem_append.mp membership with old | new
      · exact sound.issued dma old
      · obtain rfl := List.mem_singleton.mp new
        exact piece
    · intro intact
      have balance := sound.bytes intact
      simp only [Transfer.pending, without, Call.chunk, List.map_append, List.sum_append,
        List.map_cons, List.map_nil, List.sum_cons, List.sum_nil] at pending balance ⊢
      omega
    · intro done
      exact absurd (unfinished.symm.trans done) (by decide)
    · simp

theorem Sound.transferred (sound : transfer.Sound access) {index physical : Nat} {chunk : Chunk}
    (held : transfer.calls[index]? = some (.dma chunk physical)) (ok : Bool) (data : Bytes) :
    ((transfer.without index).transferred access chunk ok data).Sound access := by
  obtain ⟨unfinished, piece, counted, pieces, pending⟩ := sound.returned held
  have finished : transfer.done = true → transfer.results.length = 1 ∧
      (transfer.without index).calls = [] ∧ transfer.advancing = false :=
    fun done => absurd (unfinished.symm.trans done) (by decide)
  have fewer : transfer.inFlight - 1 = (transfer.without index).calls.length := by omega
  have failing : ({ transfer.without index with
      inFlight := transfer.inFlight - 1, failed := true } : Transfer).Kept access := by
    refine ⟨fewer, pieces, sound.issued, sound.next_le, sound.starts, ?_, sound.unfinished,
      finished⟩
    intro intact
    cases intact
  have counting (bytes : Bytes) : ({ transfer.without index with
      inFlight := transfer.inFlight - 1
      bytes := bytes
      completedBytes := transfer.completedBytes + chunk.size } : Transfer).Kept access := by
    refine ⟨fewer, pieces, sound.issued, sound.next_le, sound.starts, ?_, sound.unfinished,
      finished⟩
    intro intact
    have balance := sound.bytes intact
    simp only [Transfer.pending, without, Call.chunk] at pending balance ⊢
    omega
  unfold Transfer.transferred
  dsimp only
  split
  · split
    · exact (counting _).resume unfinished
    · exact failing.resume unfinished
  · split
    · exact failing.resume unfinished
    · split
      next broken =>
        refine Kept.resume ?_ (show (transfer.without index).done = false from unfinished)
        refine ⟨fewer, pieces, sound.issued, sound.next_le, sound.starts, ?_, sound.unfinished,
          finished⟩
        intro intact
        exact absurd (broken.symm.trans intact) (by decide)
      · exact (counting _).resume unfinished

theorem step_sound {event : TransferEvent} (sound : transfer.Sound access)
    (taken : transferStep access transfer event = some after) : after.Sound access := by
  cases event with
  | issue =>
      simp only [transferStep, Option.ite_none_right_eq_some, Option.some.injEq] at taken
      obtain ⟨⟨running, may⟩, rfl⟩ := taken
      exact sound.issue running may
  | settle =>
      simp only [transferStep, Option.ite_none_right_eq_some, Option.some.injEq] at taken
      obtain ⟨⟨running, stops⟩, rfl⟩ := taken
      exact sound.settle running stops
  | translated index ok physical =>
      simp only [transferStep] at taken
      split at taken
      next chunk held =>
        obtain rfl := Option.some.inj taken
        exact sound.translated held ok physical
      next => cases taken
  | transferred index ok data =>
      simp only [transferStep] at taken
      split at taken
      next chunk physical held =>
        obtain rfl := Option.some.inj taken
        exact sound.transferred held ok data
      next => cases taken

theorem sound_of_reaches {guard : Transfer → TransferEvent → Transfer → Prop} {bytes : Bytes}
    (reached : Reaches (transferStep access) guard { bytes := bytes } transfer) :
    transfer.Sound access :=
  reached.invariant (start_sound bytes) fun _ _ _ sound taken _ => step_sound sound taken

/-- Once every callback has run and the pump has paused, the completion has been
invoked exactly once. -/
theorem Sound.completed_single (sound : transfer.Sound access) (paused : transfer.advancing = false)
    (quiet : transfer.calls = []) : transfer.results.length = 1 := by
  cases done : transfer.done with
  | false => exact absurd quiet (sound.waits done paused)
  | true => exact (sound.finished done).1

/-! ## Coming to rest -/

/-- The transfer has nothing left to run or to wait for. -/
def Quiet (transfer : Transfer) : Prop := transfer.calls = [] ∧ transfer.advancing = false

def callWeight : Call → Nat
  | .translation _ => 3
  | .dma _ _ => 2

/-- What the steps of a transfer use up: bytes to be issued, calls, and the pump. -/
def weight (access : Access) (transfer : Transfer) : Nat :=
  4 * (access.length - transfer.nextOffset) + (transfer.calls.map callWeight).sum +
    transfer.advancing.toNat

theorem resume_weight_le (transfer : Transfer) :
    transfer.resume.weight access ≤ 4 * (access.length - transfer.nextOffset) +
      (transfer.calls.map callWeight).sum + 1 := by
  have one := Bool.toNat_le transfer.advancing
  unfold Transfer.resume weight
  split
  · omega
  · simp

/-- Taking out a call takes out its weight. -/
theorem weight_without {index : Nat} {call : Call} (held : transfer.calls[index]? = some call) :
    (transfer.calls.map callWeight).sum =
      callWeight call + ((transfer.without index).calls.map callWeight).sum := by
  obtain ⟨inside, rfl⟩ := List.getElem?_eq_some_iff.mp held
  have split := List.getElem_cons_eraseIdx_perm inside
  rw [← (split.map callWeight).sum_nat]
  rfl

theorem weight_translated {index physical : Nat} {chunk : Chunk} {ok : Bool}
    (held : transfer.calls[index]? = some (.translation chunk)) :
    ((transfer.without index).translated access chunk ok physical).weight access <
      transfer.weight access := by
  have out := weight_without held
  have one := Bool.toNat_le transfer.advancing
  unfold Transfer.translated
  split
  · refine Nat.lt_of_le_of_lt (resume_weight_le _) ?_
    simp only [weight, without, callWeight] at out ⊢
    omega
  · simp only [weight, without, callWeight, List.map_append, List.map_cons, List.map_nil,
      List.sum_append, List.sum_cons, List.sum_nil] at out ⊢
    omega

theorem weight_transferred {index physical : Nat} {chunk : Chunk} {ok : Bool} {data : Bytes}
    (held : transfer.calls[index]? = some (.dma chunk physical)) :
    ((transfer.without index).transferred access chunk ok data).weight access <
      transfer.weight access := by
  have out := weight_without held
  have rest : 4 * (access.length - transfer.nextOffset) +
      ((transfer.without index).calls.map callWeight).sum + 1 < transfer.weight access := by
    simp only [weight, callWeight] at out ⊢
    omega
  unfold Transfer.transferred
  dsimp only
  repeat' split
  all_goals exact Nat.lt_of_le_of_lt (resume_weight_le _) rest

theorem step_weight {event : TransferEvent}
    (taken : transferStep access transfer event = some after) :
    after.weight access < transfer.weight access := by
  cases event with
  | issue =>
      simp only [transferStep, Option.ite_none_right_eq_some, Option.some.injEq] at taken
      obtain ⟨⟨running, may⟩, rfl⟩ := taken
      simp only [mayIssue, Bool.and_eq_true, decide_eq_true_eq] at may
      have grows := Access.chunkAt_size_pos may.2
      simp only [weight, Transfer.issue, List.map_append, List.map_cons, List.map_nil, callWeight,
        List.sum_append, List.sum_cons, List.sum_nil]
      omega
  | settle =>
      simp only [transferStep, Option.ite_none_right_eq_some, Option.some.injEq] at taken
      obtain ⟨⟨running, _⟩, rfl⟩ := taken
      unfold Transfer.settle
      dsimp only
      split <;> simp [weight, running]
  | translated index ok physical =>
      simp only [transferStep] at taken
      split at taken
      next chunk held =>
        obtain rfl := Option.some.inj taken
        exact weight_translated held
      next => cases taken
  | transferred index ok data =>
      simp only [transferStep] at taken
      split at taken
      next chunk physical held =>
        obtain rfl := Option.some.inj taken
        exact weight_transferred held
      next => cases taken

/-- A transfer that is not at rest has a step: its pump runs, or a callback is due. -/
theorem exists_step (access : Access) (busy : ¬ transfer.Quiet) :
    ∃ event after, transferStep access transfer event = some after := by
  cases calls : transfer.calls with
  | nil =>
      have running : transfer.advancing = true := by
        cases advancing : transfer.advancing with
        | false => exact absurd ⟨calls, advancing⟩ busy
        | true => rfl
      cases may : transfer.mayIssue access with
      | true => exact ⟨.issue, _, by simp [transferStep, running, may]; rfl⟩
      | false => exact ⟨.settle, _, by simp [transferStep, running, may]; rfl⟩
  | cons call rest =>
      cases call with
      | translation chunk => exact ⟨.translated 0 false 0, _, by simp [transferStep, calls]; rfl⟩
      | dma chunk physical => exact ⟨.transferred 0 false [], _, by simp [transferStep, calls]; rfl⟩

/-- Every transfer comes to rest. -/
theorem exists_quiet (access : Access) (transfer : Transfer) :
    ∃ later, Reaches (transferStep access) always transfer later ∧ later.Quiet := by
  induction size : transfer.weight access using Nat.strongRecOn generalizing transfer with
  | ind size inductionHypothesis =>
      by_cases quiet : transfer.Quiet
      · exact ⟨transfer, .refl, quiet⟩
      · obtain ⟨event, after, taken⟩ := exists_step access quiet
        obtain ⟨later, onward, rest⟩ :=
          inductionHypothesis _ (size ▸ step_weight taken) after rfl
        exact ⟨later, (Reaches.tail .refl taken trivial).trans onward, rest⟩

end Transfer

end Udma.Ummu
