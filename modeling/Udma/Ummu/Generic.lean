import Mathlib
import Udma.Collections.Search
import Udma.Ummu.Transparency

/-!
# Generic IO-virtual addresses

Command rings, contexts and event queues are accessed without a token.
`TranslateIoVirtual` asks the token that served the access before, and scans the
table of token contexts when there is none or when it fails.  The tables do not
change, and one translation is done after another.
-/

namespace Udma.Ummu

open Transition (Script)
open Abi (Bytes load64)
open Collections (findSome_congr findSome_range_eq_some_iff)

/-! ## The scan of the token contexts -/

/-- The scan ends with the token that serves the address, and the physical address. -/
abbrev ScanScript := Script DmaRead Delivery (Option (Nat × Nat))

def entriesPerBatch : Nat := 120

/-- The first token and the number of contexts of a batch. -/
def batchStart (batch : Nat) : Nat := batch * entriesPerBatch
def batchEntries (batch : Nat) : Nat := min entriesPerBatch (entries - batchStart batch)

def batchRead (tct batch : Nat) : DmaRead := ⟨tct + batchStart batch * 64, batchEntries batch * 64⟩

def batchContext (contexts : Bytes) (index : Nat) : Bytes := (contexts.drop (index * 64)).take 64

/-- The tokens of a batch with their contexts. -/
def batchContexts (batch : Nat) (contexts : Bytes) : List (Nat × Bytes) :=
  (List.range (batchEntries batch)).map fun index =>
    (batchStart batch + index, batchContext contexts index)

/-- The loop over a batch; `next` reads the next one. -/
def tryIoVirtualContext (address : Nat) (write : Bool) (next : ScanScript) :
    List (Nat × Bytes) → ScanScript
  | [] => next
  | (token, context) :: others =>
      if !TctEntry.valid context then tryIoVirtualContext address write next others
      else do
        let permitted ← checkMapt context address write
        if !permitted.1 || permitted.2 == 0 then tryIoVirtualContext address write next others
        else do
          let walked ← walkTokenPageTable address (TctEntry.granule context)
            (pageShifts (TctEntry.granule context)) 0 permitted.2
          if walked.1 then pure (some (token, walked.2))
          else tryIoVirtualContext address write next others

def continueIoVirtual (tct address : Nat) (write : Bool) : List Nat → ScanScript
  | [] => pure none
  | batch :: later => do
      let contexts ← dmaRead (batchRead tct batch).address (batchRead tct batch).length
      if !contexts.complete (batchRead tct batch).length then pure none
      else
        tryIoVirtualContext address write (continueIoVirtual tct address write later)
          (batchContexts batch contexts.bytes)

/-- The batches of 1024 contexts. -/
def batches : List Nat := List.range 9

/-- The part of `TranslateIoVirtual` without a remembered token. -/
def scanTct (tect address : Nat) (write : Bool) : ScanScript :=
  if tect = 0 then pure none
  else do
    let entry ← dmaRead tect 64
    let tct := load64 entry.bytes 8 &&& addressMask
    if !entry.complete 64 || load64 entry.bytes 0 &&& 1 == 0 then pure none
    else if tct = 0 then pure none
    else continueIoVirtual tct address write batches

/-! ## Translations one after another -/

/-- `identity_iova_test_mode` next to what `TranslateToken` needs. -/
structure GenericConfig extends Config where
  identityIovaTestMode : Bool

/-- The registers and the IOTLB, and the remembered token. -/
structure Generic where
  units : State
  genericIovaToken : Option (Fin entries)

def Request.ofToken (token : Fin entries) (address : Fin (2 ^ 64)) (write : Bool) : Request where
  token := token
  address := address
  write := write
  token_lt := Nat.lt_trans token.isLt (by decide)
  address_lt := address.isLt

namespace Generic

variable (config : GenericConfig) (memory : Memory) (state : Generic)

def initial (registers : Registers) : Generic := ⟨.configured registers, none⟩

def tect : Nat := state.units.registers.tect

/-- `TranslateToken`, when every table read is answered before the next call. -/
def translateToken (request : Request) : (Bool × Nat) × Generic :=
  match state.units.lookup request.cacheKey with
  | some entry => ((true, entry.value ||| (request.address &&& 0xfff)), state)
  | none =>
      let result := fresh memory state.tect request
      (result, { state with units := state.units.conclude config.toConfig 0 request result.1 result.2 })

def scan (address : Fin (2 ^ 64)) (write : Bool) : (Bool × Nat) × Generic :=
  match (scanTct state.tect address write).answer memory with
  | some (token, physical) =>
      ((true, physical), { state with genericIovaToken := some ⟨token % entries, Nat.mod_lt _ (by decide)⟩ })
  | none => ((false, 0), state)

def translateIoVirtual (address : Fin (2 ^ 64)) (write : Bool) : (Bool × Nat) × Generic :=
  match state.genericIovaToken with
  | none => state.scan memory address write
  | some cached =>
      let (result, after) := translateToken config memory { state with genericIovaToken := none }
        (.ofToken cached address write)
      if result.1 then (result, { after with genericIovaToken := some cached })
      else after.scan memory address write

/-- The DMA access of `ReadIoVirtual` and `WriteIoVirtual`, if there is one. -/
def accessIoVirtual (address : Fin (2 ^ 64)) (length : Nat) (write : Bool) : Option DmaRead :=
  let (ok, physical) := (state.translateIoVirtual config memory address write).1
  if ok then some ⟨physical, length⟩
  else if config.identityIovaTestMode then some ⟨address, length⟩
  else none

def readIoVirtual (address : Fin (2 ^ 64)) (length : Nat) : Option DmaRead :=
  state.accessIoVirtual config memory address length false

def writeIoVirtual (address : Fin (2 ^ 64)) (data : Bytes) : Option DmaRead :=
  state.accessIoVirtual config memory address data.length true

/-- An earlier translation. -/
inductive Call where
  | generic (address : Fin (2 ^ 64)) (write : Bool)
  | token (request : Request)

def call : Call → Generic
  | .generic address write => (state.translateIoVirtual config memory address write).2
  | .token request => (state.translateToken config memory request).2

def after (registers : Registers) (history : List Call) : Generic :=
  history.foldl (fun state call => state.call config memory call) (initial registers)

end Generic

/-! ## Guest memory -/

/-- The bytes of the guest, and the addresses at which a DMA access succeeds. -/
structure Ram where
  byte : Nat → UInt8
  backed : Nat → Bool

namespace Ram

variable (ram : Ram)

def bytes (address length : Nat) : Bytes := (List.range length).map fun index =>
  ram.byte (address + index)

def memory : Memory := fun read =>
  if (List.range read.length).all fun index => ram.backed (read.address + index) then
    ⟨true, ram.bytes read.address read.length⟩
  else ⟨false, []⟩

variable {ram} {address length : Nat}

@[simp]
theorem bytes_length : (ram.bytes address length).length = length := by simp [bytes]

theorem bytes_slice {start count : Nat} (inside : start + count ≤ length) :
    ((ram.bytes address length).drop start).take count = ram.bytes (address + start) count := by
  obtain ⟨rest, rfl⟩ := Nat.exists_eq_add_of_le inside
  unfold bytes
  rw [Nat.add_assoc, List.range_add, List.map_append,
    List.drop_left' (by rw [List.length_map, List.length_range]), List.range_add,
    List.map_append, List.map_append, List.map_map,
    List.take_left' (by rw [List.length_map, List.length_range])]
  refine List.map_congr_left ?_
  intro index _
  simp [Nat.add_assoc]

theorem memory_complete (read : DmaRead)
    (complete : (ram.memory read).complete read.length = true) :
    ram.memory read = ⟨true, ram.bytes read.address read.length⟩ ∧
      ∀ index < read.length, ram.backed (read.address + index) = true := by
  unfold memory at complete ⊢
  split at complete
  · rename_i backed
    rw [if_pos backed]
    exact ⟨rfl, by simpa using backed⟩
  · cases complete

/-- A part of what can be read can be read by itself. -/
theorem memory_part {read : DmaRead} {start count : Nat}
    (complete : (ram.memory read).complete read.length = true)
    (inside : start + count ≤ read.length) :
    ram.memory ⟨read.address + start, count⟩ =
      ⟨true, ((ram.memory read).bytes.drop start).take count⟩ := by
  obtain ⟨whole, backed⟩ := memory_complete read complete
  rw [whole, bytes_slice inside]
  refine if_pos ?_
  rw [List.all_eq_true]
  intro index member
  rw [Nat.add_assoc]
  exact backed _ (by have := List.mem_range.mp member; dsimp only at this; omega)

end Ram

/-! ## The token that a scan finds -/

/-- The token's context permits the access and maps the page. -/
def TokenTranslates (memory : Memory) (tect token address : Nat) (write : Bool) : Prop :=
  ∃ context, contextAt memory tect token = some context ∧
    Permitted memory context address write ∧ (frame memory context address).1 = true

/-- The table of token contexts. -/
def tctBase (memory : Memory) (tect : Nat) : Option Nat :=
  let entry := memory ⟨tect, 64⟩
  let tct := load64 entry.bytes 8 &&& addressMask
  if tect = 0 then none
  else if !entry.complete 64 || load64 entry.bytes 0 &&& 1 == 0 then none
  else if tct = 0 then none
  else some tct

def readable (memory : Memory) (tct batch : Nat) : Bool :=
  (memory (batchRead tct batch)).complete (batchRead tct batch).length

/-- The number of contexts in front of the first batch that cannot be read. -/
def scanned (memory : Memory) (tect : Nat) : Nat :=
  match tctBase memory tect with
  | none => 0
  | some tct => ((batches.takeWhile (readable memory tct)).map batchEntries).sum

/-- The first token that translates an address. -/
structure First (memory : Memory) (tect token address : Nat) (write : Bool) : Prop where
  scanned : token < scanned memory tect
  translates : TokenTranslates memory tect token address write
  earlier : ∀ other < token, ¬ TokenTranslates memory tect other address write

/-- What a context makes of an address. -/
def serve (memory : Memory) (address : Nat) (write : Bool) (context : Bytes) : Option Nat :=
  if !TctEntry.valid context then none
  else
    let permitted := (checkMapt context address write).answer memory
    if !permitted.1 || permitted.2 == 0 then none
    else
      let walked := (walkTokenPageTable address (TctEntry.granule context)
        (pageShifts (TctEntry.granule context)) 0 permitted.2).answer memory
      if walked.1 then some walked.2 else none

section Scan

variable {memory : Memory} {tect address : Nat} {write : Bool}

theorem tryIoVirtualContext_answer (next : ScanScript) (contexts : List (Nat × Bytes)) :
    (tryIoVirtualContext address write next contexts).answer memory =
      (contexts.findSome? fun entry =>
        (serve memory address write entry.2).map (entry.1, ·)).or (next.answer memory) := by
  induction contexts with
  | nil => simp [tryIoVirtualContext]
  | cons entry others inductionHypothesis =>
      obtain ⟨token, context⟩ := entry
      rw [tryIoVirtualContext, List.findSome?_cons]
      unfold serve
      by_cases invalid : TctEntry.valid context = false
      · simp only [invalid, Bool.not_false, if_true, Option.map_none, inductionHypothesis]
        rfl
      · simp only [Bool.not_eq_false] at invalid
        simp only [invalid, Bool.not_true, Bool.false_eq_true, if_false, Script.answer_bind,
          Script.answer_ite, Script.answer_pure, inductionHypothesis]
        generalize (checkMapt context address write).answer memory = permitted
        by_cases refused : (!permitted.1 || permitted.2 == 0) = true
        · simp only [refused, if_true, Option.map_none]
          rfl
        · simp only [refused, Bool.false_eq_true, if_false]
          generalize (walkTokenPageTable address (TctEntry.granule context)
            (pageShifts (TctEntry.granule context)) 0 permitted.2).answer memory = walked
          cases walked.1 <;> rfl

theorem serve_eq_some_iff {context : Bytes} {physical : Nat} :
    serve memory address write context = some physical ↔
      TctEntry.valid context = true ∧ Permitted memory context address write ∧
        frame memory context address = (true, physical) := by
  unfold serve frame
  by_cases permitted : Permitted memory context address write
  · have checked := (checkMapt_answer _ _ _ _).mpr permitted
    simp only [checked, checkMapt_root _ _ _ _ checked, permitted, true_and, Bool.not_true,
      Bool.false_or, beq_iff_eq]
    by_cases valid : TctEntry.valid context = true
    · simp only [valid, Bool.not_true, Bool.false_eq_true, if_false, true_and]
      by_cases empty : TctEntry.root context = 0
      · simp [empty]
      · simp only [empty, if_false]
        generalize (walkTokenPageTable address (TctEntry.granule context)
          (pageShifts (TctEntry.granule context)) 0 (TctEntry.root context)).answer memory = walked
        obtain ⟨ok, value⟩ := walked
        cases ok <;> simp
    · simp [valid]
  · have refused := mt (checkMapt_answer _ _ _ _).mp permitted
    simp [refused, permitted]

theorem contextAt_eq (memory : Memory) (tect token : Nat) :
    contextAt memory tect token =
      (tctBase memory tect).bind fun tct =>
        let context := memory ⟨tct + token * 64, 64⟩
        if !context.complete 64 || !TctEntry.valid context.bytes then none
        else some context.bytes := by
  unfold contextAt tctBase
  dsimp only
  split
  · rfl
  · split
    · rfl
    · split <;> rfl

/-- A batch holds the contexts of its tokens. -/
theorem batch_context {ram : Ram} {tct batch index : Nat}
    (complete : readable ram.memory tct batch = true) (inside : index < batchEntries batch) :
    ram.memory ⟨tct + (batchStart batch + index) * 64, 64⟩ =
      ⟨true, batchContext (ram.memory (batchRead tct batch)).bytes index⟩ := by
  have room : index * 64 + 64 ≤ (batchRead tct batch).length := by
    unfold batchRead
    dsimp only
    omega
  have part := Ram.memory_part complete room
  have place : (batchRead tct batch).address + index * 64 =
      tct + (batchStart batch + index) * 64 := by
    unfold batchRead
    dsimp only
    omega
  rwa [place] at part

/-- What the token of a context makes of an address. -/
def served (memory : Memory) (tect address : Nat) (write : Bool) (token : Nat) : Option Nat :=
  (contextAt memory tect token).bind (serve memory address write)

theorem served_eq_some_iff {token physical : Nat} :
    served memory tect address write token = some physical ↔
      ∃ context, contextAt memory tect token = some context ∧
        Permitted memory context address write ∧
        frame memory context address = (true, physical) := by
  have valid (context : Bytes) (found : contextAt memory tect token = some context) :
      TctEntry.valid context = true := by
    rw [contextAt_eq, Option.bind_eq_some_iff] at found
    obtain ⟨tct, -, found⟩ := found
    dsimp only at found
    split at found
    · cases found
    · rename_i usable
      cases found
      simp only [Bool.or_eq_true, Bool.not_eq_true', not_or, Bool.not_eq_false] at usable
      exact usable.2
  unfold served
  rw [Option.bind_eq_some_iff]
  refine exists_congr fun context => ?_
  rw [serve_eq_some_iff]
  exact and_congr_right fun found => by rw [valid context found]; simp

theorem served_isSome_iff {token : Nat} :
    (served memory tect address write token).isSome = true ↔
      TokenTranslates memory tect token address write := by
  rw [Option.isSome_iff_exists]
  simp only [served_eq_some_iff]
  constructor
  · rintro ⟨physical, context, found, permitted, mapped⟩
    exact ⟨context, found, permitted, by rw [mapped]⟩
  · rintro ⟨context, found, permitted, mapped⟩
    exact ⟨_, context, found, permitted, Prod.ext mapped rfl⟩

/-- The scan of a readable batch asks its tokens one after another. -/
theorem batchContexts_findSome {ram : Ram} {tct batch : Nat}
    (opened : tctBase ram.memory tect = some tct)
    (complete : readable ram.memory tct batch = true) :
    ((batchContexts batch (ram.memory (batchRead tct batch)).bytes).findSome? fun entry =>
        (serve ram.memory address write entry.2).map (entry.1, ·)) =
      ((List.range (batchEntries batch)).map (batchStart batch + ·)).findSome? fun token =>
        (served ram.memory tect address write token).map (token, ·) := by
  unfold batchContexts
  rw [List.findSome?_map, List.findSome?_map]
  refine findSome_congr ?_
  intro index member
  have context := batch_context complete (List.mem_range.mp member)
  have whole (bytes : Bytes) (delivered : ram.memory ⟨tct + (batchStart batch + index) * 64, 64⟩ =
      ⟨true, bytes⟩) : bytes.length = 64 := by
    unfold Ram.memory at delivered
    split at delivered
    · cases delivered
      exact Ram.bytes_length
    · cases delivered
  have length := whole _ context
  dsimp only [Function.comp]
  generalize batchContext (ram.memory (batchRead tct batch)).bytes index = chunk
    at context length ⊢
  congr 1
  unfold served
  rw [contextAt_eq, opened, Option.bind_some, context]
  dsimp only
  by_cases valid : TctEntry.valid chunk = true
  · have usable : ¬ ((!Delivery.complete ⟨true, chunk⟩ 64 || !TctEntry.valid chunk) = true) := by
      simp [Delivery.complete, valid, length]
    rw [if_neg usable, Option.bind_some]
  · have unusable : (!Delivery.complete ⟨true, chunk⟩ 64 || !TctEntry.valid chunk) = true := by
      simp [valid]
    rw [if_pos unusable, Option.bind_none]
    simp [serve, valid]

theorem continueIoVirtual_answer {ram : Ram} {tct : Nat}
    (opened : tctBase ram.memory tect = some tct) (list : List Nat) :
    (continueIoVirtual tct address write list).answer ram.memory =
      ((list.takeWhile (readable ram.memory tct)).flatMap fun batch =>
        (List.range (batchEntries batch)).map (batchStart batch + ·)).findSome? fun token =>
          (served ram.memory tect address write token).map (token, ·) := by
  induction list with
  | nil => rfl
  | cons batch later inductionHypothesis =>
      rw [continueIoVirtual, answer_dmaRead_bind, Script.answer_ite, List.takeWhile_cons]
      by_cases complete : readable ram.memory tct batch = true
      · have delivered : (ram.memory (batchRead tct batch)).complete
            (batchRead tct batch).length = true := complete
        rw [if_pos complete, List.flatMap_cons, List.findSome?_append, ← inductionHypothesis,
          ← batchContexts_findSome opened complete, ← tryIoVirtualContext_answer, if_neg]
        change ¬ (!(ram.memory (batchRead tct batch)).complete _) = true
        rw [delivered]
        decide
      · have undelivered : (ram.memory (batchRead tct batch)).complete
            (batchRead tct batch).length = false := eq_false_of_ne_true complete
        rw [if_neg complete, if_pos]
        · rfl
        · change (!(ram.memory (batchRead tct batch)).complete _) = true
          rw [undelivered]
          rfl

/-- All batches in front of the last are full. -/
theorem batchStart_eq_sum {batch : Nat} (bound : batch ≤ 8) :
    ((List.range batch).map batchEntries).sum = batchStart batch := by
  induction batch with
  | zero => rfl
  | succ batch inductionHypothesis =>
      rw [List.range_succ, List.map_append, List.sum_append, inductionHypothesis (by omega)]
      simp only [List.map_cons, List.map_nil, List.sum_cons, List.sum_nil]
      unfold batchEntries batchStart entriesPerBatch entries
      omega

theorem scanned_le (memory : Memory) (tect : Nat) : scanned memory tect ≤ entries := by
  unfold scanned
  split
  · exact Nat.zero_le _
  · have leading := List.Sublist.map batchEntries
      (List.takeWhile_prefix (l := batches) (readable memory ‹Nat›)).sublist
    exact Nat.le_trans (leading.sum_le_sum fun _ _ => Nat.zero_le _) (by decide)

/-- The tokens of the leading batches are consecutive. -/
theorem batches_tokens {count : Nat} (bound : count ≤ 9) :
    ((List.range count).flatMap fun batch =>
        (List.range (batchEntries batch)).map (batchStart batch + ·)) =
      List.range ((List.range count).map batchEntries).sum := by
  induction count with
  | zero => rfl
  | succ count inductionHypothesis =>
      rw [List.range_succ, List.flatMap_append, inductionHypothesis (by omega), List.map_append,
        List.sum_append, batchStart_eq_sum (by omega), List.range_add]
      simp

theorem scanTct_answer (ram : Ram) (tect address : Nat) (write : Bool) :
    (scanTct tect address write).answer ram.memory =
      (List.range (scanned ram.memory tect)).findSome? fun token =>
        (served ram.memory tect address write token).map (token, ·) := by
  have opening : (scanTct tect address write).answer ram.memory =
      ((tctBase ram.memory tect).bind fun tct =>
        (continueIoVirtual tct address write batches).answer ram.memory) := by
    unfold scanTct tctBase
    dsimp only
    by_cases empty : tect = 0
    · rw [if_pos empty, if_pos empty]
      rfl
    rw [if_neg empty, if_neg empty, answer_dmaRead_bind]
    generalize ram.memory ⟨tect, 64⟩ = entry
    by_cases invalid : (!entry.complete 64 || load64 entry.bytes 0 &&& 1 == 0) = true
    · rw [if_pos invalid, if_pos invalid]
      rfl
    rw [if_neg invalid, if_neg invalid]
    by_cases closed : load64 entry.bytes 8 &&& addressMask = 0
    · rw [if_pos closed, if_pos closed]
      rfl
    · rw [if_neg closed, if_neg closed, Option.bind_some]
  rw [opening]
  unfold scanned
  cases opened : tctBase ram.memory tect with
  | none => rfl
  | some tct =>
      rw [Option.bind_some, continueIoVirtual_answer opened]
      dsimp only
      obtain ⟨count, leading⟩ : ∃ count, batches.takeWhile (readable ram.memory tct) =
          List.range (min count 9) :=
        ⟨_, (List.prefix_iff_eq_take.mp (List.takeWhile_prefix _)).trans List.take_range⟩
      rw [leading, batches_tokens (Nat.min_le_right _ _)]

/-- The scan finds the first token that translates the address. -/
theorem scanTct_eq_some_iff {ram : Ram} {token physical : Nat} :
    (scanTct tect address write).answer ram.memory = some (token, physical) ↔
      First ram.memory tect token address write ∧
        served ram.memory tect address write token = some physical := by
  have refused (other : Nat) :
      (served ram.memory tect address write other).map (other, ·) = none ↔
        ¬ TokenTranslates ram.memory tect other address write := by
    rw [← served_isSome_iff, Option.map_eq_none_iff, Option.not_isSome_iff_eq_none]
  rw [scanTct_answer, findSome_range_eq_some_iff]
  simp only [refused]
  constructor
  · rintro ⟨number, small, found, earlier⟩
    obtain ⟨value, value_eq, same⟩ := Option.map_eq_some_iff.mp found
    cases same
    exact ⟨⟨small, served_isSome_iff.mp (by rw [value_eq]; rfl), earlier⟩, value_eq⟩
  · rintro ⟨first, value_eq⟩
    exact ⟨token, first.scanned, by rw [value_eq]; rfl, first.earlier⟩

end Scan

/-! ## Histories -/

namespace Generic

variable {config : GenericConfig} {memory : Memory} {registers : Registers} {state : Generic}
  {address : Fin (2 ^ 64)} {write : Bool}

/-- Every entry of the IOTLB is the frame of its page under a token of the table. -/
structure Sound (memory : Memory) (tect : Nat) (state : Generic) : Prop where
  base : state.tect = tect
  entries : ∀ entry ∈ state.units.iotlb, ∃ filler : Request, filler.token < Ummu.entries ∧
    entry.key = filler.cacheKey ∧ ∃ physical, fresh memory tect filler = (true, physical) ∧
      entry.value = (physical >>> 12) <<< 12

theorem Sound.initial (memory : Memory) (registers : Registers) :
    Sound memory registers.tect (.initial registers) where
  base := rfl
  entries := by
    intro entry member
    cases member

theorem Sound.remember {tect : Nat} (sound : Sound memory tect state)
    (token : Option (Fin Ummu.entries)) :
    Sound memory tect { state with genericIovaToken := token } := ⟨sound.base, sound.entries⟩

theorem fresh_small {tect : Nat} {request : Request} {physical : Nat}
    (success : fresh memory tect request = (true, physical)) : request.token < Ummu.entries := by
  by_contra large
  unfold fresh walkTables at success
  rw [if_pos (Nat.le_of_not_lt large)] at success
  cases success

theorem Sound.translateToken {tect : Nat} (sound : Sound memory tect state) (request : Request) :
    Sound memory tect (state.translateToken config memory request).2 := by
  unfold Generic.translateToken
  cases found : state.units.lookup request.cacheKey with
  | some entry => exact sound
  | none =>
      dsimp only
      unfold State.conclude
      split
      · rename_i filled
        refine ⟨sound.base, ?_⟩
        intro entry member
        rcases State.mem_fill member with rfl | old
        · rw [sound.base] at filled ⊢
          have success : fresh memory tect request =
              (true, (fresh memory tect request).2) := Prod.ext filled.1 rfl
          exact ⟨request, fresh_small success, rfl, _, success, rfl⟩
        · exact sound.entries entry old
      · exact ⟨sound.base, sound.entries⟩

theorem Sound.scan {tect : Nat} (sound : Sound memory tect state) :
    Sound memory tect (state.scan memory address write).2 := by
  unfold Generic.scan
  split
  · exact sound.remember _
  · exact sound

theorem Sound.translateIoVirtual {tect : Nat} (sound : Sound memory tect state) :
    Sound memory tect (state.translateIoVirtual config memory address write).2 := by
  unfold Generic.translateIoVirtual
  cases state.genericIovaToken with
  | none => exact sound.scan
  | some cached =>
      have asked : Sound memory tect (Generic.translateToken config memory
          { state with genericIovaToken := none } (.ofToken cached address write)).2 :=
        (sound.remember none).translateToken _
      dsimp only
      split
      · exact asked.remember _
      · exact asked.scan

theorem Sound.call {tect : Nat} (sound : Sound memory tect state) (call : Call) :
    Sound memory tect (state.call config memory call) := by
  cases call with
  | generic address write => exact sound.translateIoVirtual
  | token request => exact sound.translateToken request

theorem sound_after (config : GenericConfig) (memory : Memory) (registers : Registers)
    (history : List Call) :
    Sound memory registers.tect (after config memory registers history) := by
  have kept (start : Generic) (sound : Sound memory registers.tect start) :
      Sound memory registers.tect
        (history.foldl (fun state call => state.call config memory call) start) := by
    induction history generalizing start with
    | nil => exact sound
    | cons call rest inductionHypothesis => exact inductionHypothesis _ (sound.call call)
  exact kept _ (.initial memory registers)

/-! ## The token that serves an address -/

/-- The page of the address is in the IOTLB under a token. -/
def Cached (state : Generic) (token : Fin Ummu.entries) (address : Fin (2 ^ 64)) (write : Bool) :
    Prop :=
  (state.units.lookup (Request.ofToken token address write).cacheKey).isSome = true

/-- A remembered token that is not asked in vain. -/
def Answers (memory : Memory) (state : Generic) (token : Fin Ummu.entries)
    (address : Fin (2 ^ 64)) (write : Bool) : Prop :=
  state.Cached token address write ∨ TokenTranslates memory state.tect token address write

/-- What the page table of a token makes of an address. -/
def frameOf (memory : Memory) (tect token address : Nat) : Option (Bool × Nat) :=
  (contextAt memory tect token).map (frame memory · address)

/-- An entry of the IOTLB gives the frame of the address. -/
theorem Sound.cached_frame (sound : Sound memory state.tect state) {token : Fin Ummu.entries}
    {entry : Entry}
    (found : state.units.lookup (Request.ofToken token address write).cacheKey = some entry) :
    frameOf memory state.tect token address =
      some (true, entry.value ||| (address.val &&& 0xfff)) := by
  obtain ⟨member, key⟩ := lookup_key found
  obtain ⟨filler, small, filled, physical, success, value⟩ := sound.entries entry member
  obtain ⟨sameToken, samePage, sameWrite⟩ :=
    filler.cacheKey_injective small token.isLt (filled.symm.trans key)
  obtain ⟨context, contextFound, permitted, mapped⟩ :=
    (fresh_succeeds_iff small).mp (by rw [success])
  have physicalFrame : frame memory context filler.address = (true, physical) := by
    rw [← fresh_of_permitted small contextFound permitted, success]
  have here : frame memory context address = (true, entry.value ||| (address.val &&& 0xfff)) := by
    have moved := frame_congr samePage memory context mapped
    rw [physicalFrame, ← value] at moved
    exact moved
  have token_eq : token.val = filler.token := sameToken.symm
  unfold frameOf
  rw [token_eq, contextFound, Option.map_some, here]

theorem translateToken_answers (sound : Sound memory state.tect state)
    {token : Fin Ummu.entries} (answers : state.Answers memory token address write) :
    ∃ physical, frameOf memory state.tect token address = some (true, physical) ∧
      (state.translateToken config memory (.ofToken token address write)).1 = (true, physical) := by
  unfold Generic.translateToken
  cases found : state.units.lookup (Request.ofToken token address write).cacheKey with
  | some entry => exact ⟨_, sound.cached_frame found, rfl⟩
  | none =>
      rcases answers with cached | ⟨context, contextFound, permitted, mapped⟩
      · unfold Cached at cached
        rw [found] at cached
        cases cached
      · refine ⟨(frame memory context address).2, ?_, ?_⟩
        · unfold frameOf
          rw [contextFound]
          exact congrArg some (Prod.ext mapped rfl)
        · dsimp only
          rw [@fresh_of_permitted memory state.tect (.ofToken token address write) context
            token.isLt contextFound permitted]
          exact Prod.ext mapped rfl

theorem translateToken_fails {token : Fin Ummu.entries}
    (silent : ¬ state.Answers memory token address write) :
    ((state.translateToken config memory (.ofToken token address write)).1).1 = false := by
  unfold Generic.translateToken
  cases found : state.units.lookup (Request.ofToken token address write).cacheKey with
  | some entry =>
      exact absurd (.inl (by unfold Cached; rw [found]; rfl)) silent
  | none =>
      refine eq_false_of_ne_true ?_
      intro success
      obtain ⟨context, contextFound, permitted, mapped⟩ :=
        (@fresh_succeeds_iff memory state.tect (.ofToken token address write) token.isLt).mp success
      exact silent (.inr ⟨context, contextFound, permitted, mapped⟩)

theorem translateToken_tect (request : Request) :
    (state.translateToken config memory request).2.tect = state.tect := by
  unfold Generic.translateToken
  split
  · rfl
  · dsimp only
    unfold State.conclude
    split <;> rfl

/-- The token that an access is served by: the remembered one if it answers, and the
first that translates the address otherwise. -/
def Serves (memory : Memory) (state : Generic) (token : Fin Ummu.entries)
    (address : Fin (2 ^ 64)) (write : Bool) : Prop :=
  (state.genericIovaToken = some token ∧ state.Answers memory token address write) ∨
    ((∀ other, state.genericIovaToken = some other →
        ¬ state.Answers memory other address write) ∧
      First memory state.tect token address write)

section Tables

variable {ram : Ram}

theorem scan_eq_iff {physical : Nat} :
    (state.scan ram.memory address write).1 = (true, physical) ↔
      ∃ token, First ram.memory state.tect token address write ∧
        frameOf ram.memory state.tect token address = some (true, physical) := by
  have mapped {token : Nat} (first : First ram.memory state.tect token address write) :
      served ram.memory state.tect address write token = some physical ↔
        frameOf ram.memory state.tect token address = some (true, physical) := by
    obtain ⟨context, found, permitted, _⟩ := first.translates
    rw [served_eq_some_iff]
    unfold frameOf
    rw [found, Option.map_some, Option.some.injEq]
    constructor
    · rintro ⟨other, same, -, framed⟩
      cases same
      exact framed
    · intro framed
      exact ⟨context, rfl, permitted, framed⟩
  have scanned : (state.scan ram.memory address write).1 = (true, physical) ↔
      ∃ token, (scanTct state.tect address write).answer ram.memory = some (token, physical) := by
    unfold Generic.scan
    cases (scanTct state.tect address write).answer ram.memory with
    | none => simp
    | some found =>
        obtain ⟨token, place⟩ := found
        simp
  rw [scanned]
  refine exists_congr fun token => ?_
  rw [scanTct_eq_some_iff]
  exact and_congr_right mapped

/-- The scan looks at the tables alone. -/
theorem scan_congr {other : Generic} (same : other.tect = state.tect) :
    (other.scan memory address write).1 = (state.scan memory address write).1 := by
  unfold Generic.scan
  rw [same]
  cases (scanTct state.tect address write).answer memory <;> rfl

theorem translateIoVirtual_hinted (sound : Sound memory state.tect state)
    {token : Fin Ummu.entries} (hint : state.genericIovaToken = some token)
    (answers : state.Answers memory token address write) :
    ∃ physical, frameOf memory state.tect token address = some (true, physical) ∧
      (state.translateIoVirtual config memory address write).1 = (true, physical) := by
  obtain ⟨physical, framed, result⟩ :=
    @translateToken_answers config memory { state with genericIovaToken := none } address write
      (sound.remember none) token answers
  refine ⟨physical, framed, ?_⟩
  unfold Generic.translateIoVirtual
  rw [hint]
  dsimp only
  rw [result, if_pos rfl]

theorem translateIoVirtual_scanned
    (silent : ∀ token, state.genericIovaToken = some token →
      ¬ state.Answers memory token address write) :
    (state.translateIoVirtual config memory address write).1 =
      (state.scan memory address write).1 := by
  unfold Generic.translateIoVirtual
  cases hint : state.genericIovaToken with
  | none => rfl
  | some token =>
      have failed := @translateToken_fails config memory { state with genericIovaToken := none }
        address write token (silent token hint)
      dsimp only
      rw [failed, if_neg Bool.false_ne_true]
      exact scan_congr (translateToken_tect _)

/-- A translation gives the frame of the token that serves the access. -/
theorem translateIoVirtual_eq_iff (sound : Sound ram.memory state.tect state) {physical : Nat} :
    (state.translateIoVirtual config ram.memory address write).1 = (true, physical) ↔
      ∃ token, state.Serves ram.memory token address write ∧
        frameOf ram.memory state.tect token address = some (true, physical) := by
  by_cases asked : ∃ token, state.genericIovaToken = some token ∧
      state.Answers ram.memory token address write
  · obtain ⟨token, hint, answers⟩ := asked
    obtain ⟨value, framed, result⟩ :=
      @translateIoVirtual_hinted config _ _ address write sound token hint answers
    rw [result]
    constructor
    · intro same
      exact ⟨token, .inl ⟨hint, answers⟩, by rw [framed, same]⟩
    · rintro ⟨other, ⟨otherHint, -⟩ | ⟨silent, -⟩, otherFramed⟩
      · rw [hint] at otherHint
        cases otherHint
        rw [framed] at otherFramed
        exact Option.some.inj otherFramed
      · exact absurd answers (silent token hint)
  · have silent : ∀ token, state.genericIovaToken = some token →
        ¬ state.Answers ram.memory token address write :=
      fun token hint answers => asked ⟨token, hint, answers⟩
    rw [translateIoVirtual_scanned silent, scan_eq_iff]
    constructor
    · rintro ⟨token, first, framed⟩
      have small : token < Ummu.entries :=
        Nat.lt_of_lt_of_le first.scanned (scanned_le ram.memory state.tect)
      exact ⟨⟨token, small⟩, .inr ⟨silent, first⟩, framed⟩
    · rintro ⟨token, ⟨hint, answers⟩ | ⟨-, first⟩, framed⟩
      · exact absurd answers (silent token hint)
      · exact ⟨token, first, framed⟩

/-- The remembered token makes no difference when it is not asked, when it does not
answer, and when the first token that translates the address has the same frame. -/
def HintAgrees (memory : Memory) (state : Generic) (address : Fin (2 ^ 64)) (write : Bool) :
    Prop :=
  ∀ token, state.genericIovaToken = some token → state.Answers memory token address write →
    ∃ first, First memory state.tect first address write ∧
      frameOf memory state.tect first address = frameOf memory state.tect token address

theorem hintAgrees_iff (sound : Sound ram.memory state.tect state) :
    (state.translateIoVirtual config ram.memory address write).1 =
        (Generic.translateIoVirtual config ram.memory { state with genericIovaToken := none }
          address write).1 ↔
      state.HintAgrees ram.memory address write := by
  have full : (Generic.translateIoVirtual config ram.memory
      { state with genericIovaToken := none } address write).1 =
        (state.scan ram.memory address write).1 := scan_congr rfl
  rw [full]
  by_cases asked : ∃ token, state.genericIovaToken = some token ∧
      state.Answers ram.memory token address write
  · obtain ⟨token, hint, answers⟩ := asked
    obtain ⟨physical, framed, result⟩ :=
      @translateIoVirtual_hinted config _ _ address write sound token hint answers
    rw [result, eq_comm, scan_eq_iff]
    constructor
    · rintro ⟨first, isFirst, firstFramed⟩ other otherHint -
      rw [hint] at otherHint
      cases otherHint
      exact ⟨first, isFirst, firstFramed.trans framed.symm⟩
    · intro agrees
      obtain ⟨first, isFirst, same⟩ := agrees token hint answers
      exact ⟨first, isFirst, same.trans framed⟩
  · have silent : ∀ token, state.genericIovaToken = some token →
        ¬ state.Answers ram.memory token address write :=
      fun token hint answers => asked ⟨token, hint, answers⟩
    refine iff_of_true (translateIoVirtual_scanned silent) ?_
    intro token hint answers
    exact absurd answers (silent token hint)

end Tables

/-- With tables that do not change, and after any translations, the remembered token
makes no difference exactly when `HintAgrees` holds. -/
theorem hint_transparent_iff (config : GenericConfig) (ram : Ram) (registers : Registers)
    (history : List Call) (address : Fin (2 ^ 64)) (write : Bool) :
    ((after config ram.memory registers history).translateIoVirtual config ram.memory
        address write).1 =
      (Generic.translateIoVirtual config ram.memory
        { after config ram.memory registers history with genericIovaToken := none }
        address write).1 ↔
      (after config ram.memory registers history).HintAgrees ram.memory address write := by
  have sound := sound_after config ram.memory registers history
  rw [← sound.base] at sound
  exact hintAgrees_iff sound

end Generic

/-! ## Two tokens -/

/-- Memory given by 64-bit words. -/
def Ram.ofWords (word : Nat → Nat) : Ram where
  byte address := UInt8.ofNat (word (address / 8 * 8) >>> (8 * (address % 8)))
  backed _ := true

/-- Token 3 maps the first GiB; token 5 maps the first and the second one, to other
frames, which do not follow each other. -/
def twoTokens : Ram := .ofWords fun
  | 0x1000 => 1
  | 0x1008 => 0x2000
  | 0x20c0 => 1
  | 0x20d0 => 0x10000
  | 0x2140 => 1
  | 0x2150 => 0x20000
  | 0x10000 => 0x11003
  | 0x11000 => 0x40000001
  | 0x20000 => 0x21003
  | 0x21000 => 0x80000001
  | 0x21008 => 0x100000001
  | _ => 0

def twoTokenRegisters : Registers := Registers.initial.store 0x70 8 0x1000

/-- After an access to the second GiB, an access to the first one is answered by token 5;
a scan finds token 3. -/
theorem hint_changes_frame :
    ¬ ∀ (config : GenericConfig) (ram : Ram) (registers : Registers)
      (history : List Generic.Call) (address : Fin (2 ^ 64)) (write : Bool),
      ((Generic.after config ram.memory registers history).translateIoVirtual config ram.memory
          address write).1 =
        (Generic.translateIoVirtual config ram.memory
          { Generic.after config ram.memory registers history with genericIovaToken := none }
          address write).1 := by
  intro claim
  have same := claim ⟨⟨4096⟩, false⟩ twoTokens twoTokenRegisters
    [.generic 0x40000000 false] 0 false
  revert same
  decide +kernel

end Udma.Ummu
