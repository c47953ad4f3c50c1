import Udma.Ummu.Tables

/-!
# Permission ranges and page frames

What the tables of a token mean, for a guest memory that answers every read in
one way: the token's context, the range of addresses that its permission table
grants around an address, and the frame its page table maps a page to.  Ranges
are bounded by bytes; which range governs an address depends on its page only.
-/

namespace Udma.Ummu

open Transition (Script)
open Abi (Bytes load64)

/-- A guest memory that does not change. -/
abbrev Memory := DmaRead → Delivery

/-- An inclusive range of addresses. -/
structure Range where
  first : Nat
  last : Nat
  deriving DecidableEq, Repr

def Range.Covers (range : Range) (address : Nat) : Prop :=
  range.first ≤ address ∧ address ≤ range.last

instance (range : Range) (address : Nat) : Decidable (range.Covers address) :=
  inferInstanceAs (Decidable (_ ∧ _))

@[simp]
theorem answer_dmaRead_bind {Result : Type} (memory : Memory) (address length : Nat)
    (next : Delivery → Script DmaRead Delivery Result) :
    (dmaRead address length >>= next).answer memory =
      (next (memory ⟨address, length⟩)).answer memory := rfl

/-! ## Ranges -/

/-- The range of a node that grants the direction, counted from `start`. -/
def nodeRange (node : Bytes) (write : Bool) (highMask start : Nat) : Option Range :=
  if !MaptNode.tokenCheck node && MaptNode.allowed node write then
    some ⟨start + MaptNode.base node highMask, start + MaptNode.limit node highMask⟩
  else none

/-- The block in which the walk goes on below a node. -/
def nextBlock (memory : Memory) (blockTable block : Nat) (node : Bytes) : Option Nat :=
  if !MaptNode.crossesBlock node then some block
  else if blockTable = 0 then none
  else
    let descriptor := memory ⟨blockTable + MaptNode.nextBlockIndex node * 8, 8⟩
    let value := load64 descriptor.bytes 0
    if !descriptor.complete 8 then none
    else if value &&& 1 = 0 ∨ value &&& maptAddressMask = 0 then none
    else some (value &&& maptAddressMask)

/-- The leaf above an address, if its path in the table is valid and grants the direction. -/
def tableRange (memory : Memory) (blockTable address : Nat) (write : Bool) :
    (shifts : List Nat) → (block levelBase : Nat) → Option Range
  | [], _, _ => none
  | shift :: rest, block, levelBase =>
      let node := memory ⟨levelBase + ((address >>> shift) &&& 0x1ff) * 32, 32⟩
      if block = 0 then none
      else if !node.complete 32 || !MaptNode.valid node.bytes then none
      else if MaptNode.leaf node.bytes then
        nodeRange node.bytes write 0x7f ((address >>> shift) <<< shift)
      else
        (nextBlock memory blockTable block node.bytes).bind fun next =>
          tableRange memory blockTable address write rest next
            (next + MaptNode.nextOffset node.bytes * 32)

/-- The range that governs an address in a context with permission checks. -/
def maptRange (memory : Memory) (context : Bytes) (address : Nat) (write : Bool) :
    Option Range :=
  if TctEntry.block context = 0 then none
  else if !TctEntry.maptTable context then
    let node := memory ⟨TctEntry.block context, 32⟩
    if !node.complete 32 || !MaptNode.valid node.bytes then none
    else nodeRange node.bytes write 0xffff 0
  else
    tableRange memory (TctEntry.blockTable context) address write maptShifts
      (TctEntry.block context) (TctEntry.block context)

/-- The address lies in a valid range of the context that grants the direction. -/
def Granted (memory : Memory) (context : Bytes) (address : Nat) (write : Bool) : Prop :=
  ∃ range, maptRange memory context address write = some range ∧ range.Covers address

def Permitted (memory : Memory) (context : Bytes) (address : Nat) (write : Bool) : Prop :=
  TctEntry.maptEnabled context = false ∨ Granted memory context address write

theorem nodeRange_covers {node : Bytes} {write : Bool} {highMask start address : Nat} :
    (∃ range, nodeRange node write highMask start = some range ∧ range.Covers address) ↔
      MaptNode.tokenCheck node = false ∧ MaptNode.allowed node write = true ∧
        start + MaptNode.base node highMask ≤ address ∧
        address ≤ start + MaptNode.limit node highMask := by
  unfold nodeRange
  cases MaptNode.tokenCheck node <;> cases MaptNode.allowed node write <;>
    simp [Range.Covers]

/-- An address is the start of its region and its offset in it. -/
theorem region_add_within (address shift : Nat) :
    (address >>> shift) <<< shift + (address &&& (2 ^ shift - 1)) = address := by
  rw [Nat.and_two_pow_sub_one_eq_mod, Nat.shiftRight_eq_div_pow, Nat.shiftLeft_eq,
    Nat.mul_comm]
  exact Nat.div_add_mod address (2 ^ shift)

/-- The table walk allows an access exactly inside the range of its leaf. -/
theorem walkMaptTable_answer (memory : Memory) (blockTable address : Nat) (write : Bool)
    (shifts : List Nat) (block levelBase : Nat) :
    ((walkMaptTable blockTable address write shifts block levelBase).answer memory).1 = true ↔
      ∃ range, tableRange memory blockTable address write shifts block levelBase = some range ∧
        range.Covers address := by
  induction shifts generalizing block levelBase with
  | nil => simp [walkMaptTable, tableRange]
  | cons shift rest inductionHypothesis =>
      unfold walkMaptTable tableRange checkMaptNode
      by_cases empty : block = 0
      · simp [empty]
      · simp only [empty, if_false, answer_dmaRead_bind]
        generalize memory ⟨levelBase + ((address >>> shift) &&& 0x1ff) * 32, 32⟩ = node
        by_cases complete : node.complete 32
        · by_cases valid : MaptNode.valid node.bytes
          · by_cases leaf : MaptNode.leaf node.bytes
            · have region := region_add_within address shift
              simp only [complete, valid, leaf, Bool.not_true, Bool.false_eq_true, if_false,
                if_true, Bool.or_self, nodeRange_covers, Bool.and_eq_true, decide_eq_true_eq,
                Bool.not_eq_true', Script.answer_pure]
              constructor
              · rintro ⟨⟨⟨unchecked, allowed⟩, low⟩, high⟩
                exact ⟨unchecked, allowed, by omega, by omega⟩
              · rintro ⟨unchecked, allowed, low, high⟩
                exact ⟨⟨⟨unchecked, allowed⟩, by omega⟩, by omega⟩
            · simp only [complete, valid, leaf, Bool.not_true, Bool.false_eq_true, if_false,
                Bool.or_self]
              unfold nextBlock
              by_cases crosses : MaptNode.crossesBlock node.bytes
              · by_cases table : blockTable = 0
                · simp [crosses, table]
                · simp only [crosses, table, Bool.not_true, Bool.false_eq_true, if_false,
                    answer_dmaRead_bind]
                  split
                  · simp
                  · split
                    · simp
                    · simpa using inductionHypothesis _ _
              · simp only [crosses, Bool.not_false, if_true, Option.bind_some]
                exact inductionHypothesis _ _
          · simp [complete, valid]
        · simp [complete]

/-- `CheckMapt` permits an access exactly where the context does. -/
theorem checkMapt_answer (memory : Memory) (context : Bytes) (address : Nat) (write : Bool) :
    ((checkMapt context address write).answer memory).1 = true ↔
      Permitted memory context address write := by
  unfold checkMapt Permitted Granted maptRange
  by_cases enabled : TctEntry.maptEnabled context
  · by_cases empty : TctEntry.block context = 0
    · simp [enabled, empty]
    · by_cases table : TctEntry.maptTable context
      · simpa [enabled, empty, table] using walkMaptTable_answer _ _ _ _ _ _ _
      · simp only [enabled, empty, table, Bool.not_true, Bool.false_eq_true, if_false,
          Bool.not_false, if_true, answer_dmaRead_bind, Bool.true_eq_false, false_or]
        generalize memory ⟨TctEntry.block context, 32⟩ = node
        by_cases complete : node.complete 32
        · by_cases valid : MaptNode.valid node.bytes
          · simp [complete, valid, nodeRange_covers, and_assoc]
          · simp [complete, valid]
        · simp [complete]
  · simp [enabled]

/-- A permitted access goes on at the root of the context. -/
theorem checkMapt_root (memory : Memory) (context : Bytes) (address : Nat) (write : Bool)
    (permitted : ((checkMapt context address write).answer memory).1 = true) :
    ((checkMapt context address write).answer memory).2 = TctEntry.root context := by
  unfold checkMapt at *
  by_cases enabled : TctEntry.maptEnabled context
  · by_cases empty : TctEntry.block context = 0
    · simp [enabled, empty] at permitted
    · by_cases table : TctEntry.maptTable context
      · simp [enabled, empty, table]
      · simp only [enabled, empty, table, Bool.not_true, Bool.false_eq_true, if_false,
          Bool.not_false, if_true, answer_dmaRead_bind] at permitted ⊢
        by_cases complete : (memory ⟨TctEntry.block context, 32⟩).complete 32
        · simp [complete]
        · simp [complete] at permitted
  · simp [enabled]

/-! ## Addresses of one page -/

section SamePage

variable {left right : Nat} (same : left >>> 12 = right >>> 12)
include same

theorem shiftRight_of_page {shift : Nat} (coarse : 12 ≤ shift) :
    left >>> shift = right >>> shift := by
  obtain ⟨extra, rfl⟩ := Nat.exists_eq_add_of_le coarse
  rw [Nat.shiftRight_add, Nat.shiftRight_add, same]

theorem tableRange_congr (memory : Memory) (blockTable : Nat) (write : Bool)
    (shifts : List Nat) (coarse : ∀ shift ∈ shifts, 12 ≤ shift) (block levelBase : Nat) :
    tableRange memory blockTable left write shifts block levelBase =
      tableRange memory blockTable right write shifts block levelBase := by
  induction shifts generalizing block levelBase with
  | nil => rfl
  | cons shift rest inductionHypothesis =>
      have region := shiftRight_of_page same (coarse shift List.mem_cons_self)
      have deeper := inductionHypothesis fun other membership =>
        coarse other (List.mem_cons_of_mem _ membership)
      unfold tableRange
      simp only [region, deeper]

/-- One range governs all addresses of a page. -/
theorem maptRange_congr (memory : Memory) (context : Bytes) (write : Bool) :
    maptRange memory context left write = maptRange memory context right write := by
  unfold maptRange
  rw [tableRange_congr same memory _ write maptShifts (by decide)]

/-- Replacing the offset in the page of a translated address. -/
theorem splice_offset {output shift : Nat} (aligned : ∀ bit < 12, output.testBit bit = false)
    (coarse : 12 ≤ shift) :
    (((output ||| (left &&& (2 ^ shift - 1))) >>> 12) <<< 12) ||| (right &&& 0xfff) =
      output ||| (right &&& (2 ^ shift - 1)) := by
  apply Nat.eq_of_testBit_eq
  intro bit
  have mask : (0xfff : Nat) = 2 ^ 12 - 1 := rfl
  simp only [mask, Nat.testBit_or, Nat.testBit_and, Nat.testBit_shiftLeft,
    Nat.testBit_shiftRight, Nat.testBit_two_pow_sub_one]
  by_cases low : bit < 12
  · have within : bit < shift := Nat.lt_of_lt_of_le low coarse
    simp [low, within, aligned bit low, Nat.not_le_of_lt low]
  · have high : 12 ≤ bit := Nat.le_of_not_lt low
    have agree : left.testBit bit = right.testBit bit := by
      have shifted := congrArg (Nat.testBit · (bit - 12)) same
      simpa [Nat.testBit_shiftRight, Nat.add_sub_cancel' high] using shifted
    simp [low, high, Nat.add_sub_cancel' high, agree]

/-- The page walk of one address gives that of every address of its page. -/
theorem walkTokenPageTable_congr (memory : Memory) (granule : Nat) (shifts : List Nat)
    (coarse : ∀ shift ∈ shifts, 12 ≤ shift) (level table : Nat) :
    (walkTokenPageTable right granule shifts level table).answer memory =
      if ((walkTokenPageTable left granule shifts level table).answer memory).1 then
        (true, (((walkTokenPageTable left granule shifts level table).answer memory).2 >>> 12
          <<< 12) ||| (right &&& 0xfff))
      else (false, 0) := by
  induction shifts generalizing level table with
  | nil => rfl
  | cons shift rest inductionHypothesis =>
      have twelve := coarse shift List.mem_cons_self
      have region := shiftRight_of_page same twelve
      have deeper := inductionHypothesis fun other membership =>
        coarse other (List.mem_cons_of_mem _ membership)
      unfold walkTokenPageTable
      simp only [answer_dmaRead_bind, region]
      generalize memory ⟨table + ((right >>> shift) &&& pageIndexMask granule) * 8, 8⟩ = reply
      generalize load64 reply.bytes 0 = descriptor
      have aligned : ∀ bit < 12, (descriptor &&& pageAddressMask granule).testBit bit = false := by
        intro bit low
        have clear : (pageAddressMask granule).testBit bit = false := by
          unfold pageAddressMask
          split <;> (revert bit; decide)
        rw [Nat.testBit_and, clear, Bool.and_false]
      have alignedBlock : ∀ bit < 12,
          ((descriptor &&& pageAddressMask granule) >>> shift <<< shift).testBit bit = false := by
        intro bit low
        rw [Nat.testBit_shiftLeft, decide_eq_false (by omega), Bool.false_and]
      split
      · rfl
      · split
        · rfl
        · split
          · simp only [Script.answer_pure, if_true, splice_offset same aligned twelve]
          · split
            · simp only [Script.answer_pure, if_true, splice_offset same alignedBlock twelve]
            · exact deeper _ _

end SamePage

/-! ## The walk as a whole -/

/-- The context of a token. -/
def contextAt (memory : Memory) (tect token : Nat) : Option Bytes :=
  let entry := memory ⟨tect, 64⟩
  let tct := load64 entry.bytes 8 &&& addressMask
  let context := memory ⟨tct + token * 64, 64⟩
  if tect = 0 then none
  else if !entry.complete 64 || load64 entry.bytes 0 &&& 1 == 0 then none
  else if tct = 0 then none
  else if !context.complete 64 || !TctEntry.valid context.bytes then none
  else some context.bytes

/-- The page walk of an address in a context. -/
def frame (memory : Memory) (context : Bytes) (address : Nat) : Bool × Nat :=
  if TctEntry.root context = 0 then (false, 0)
  else
    (walkTokenPageTable address (TctEntry.granule context)
      (pageShifts (TctEntry.granule context)) 0 (TctEntry.root context)).answer memory

/-- A translation against a guest memory that does not change. -/
def fresh (memory : Memory) (tect : Nat) (request : Request) : Bool × Nat :=
  (walkTables tect request).answer memory

open Classical in
/-- A fresh translation: the context permits the access and its page table maps the page. -/
theorem fresh_eq (memory : Memory) (tect : Nat) (request : Request)
    (small : request.token < entries) :
    fresh memory tect request =
      match contextAt memory tect request.token with
      | none => (false, 0)
      | some context =>
          if Permitted memory context request.address request.write then
            frame memory context request.address
          else (false, 0) := by
  unfold fresh walkTables contextAt
  simp only [Nat.not_le_of_lt small, if_false]
  split
  next => rfl
  next =>
    simp only [answer_dmaRead_bind]
    split
    next => rfl
    next =>
      split
      next => rfl
      next =>
        simp only [answer_dmaRead_bind]
        split
        next => rfl
        next =>
          generalize (memory ⟨_, 64⟩).bytes = context
          rw [Script.answer_bind]
          unfold frame
          by_cases permitted : Permitted memory context request.address request.write
          · have checked := (checkMapt_answer _ _ _ _).mpr permitted
            simp only [checked, checkMapt_root _ _ _ _ checked, permitted, if_true,
              Bool.not_true, Bool.false_or, beq_iff_eq]
            split <;> rfl
          · have refused := mt (checkMapt_answer _ _ _ _).mp permitted
            simp [refused, permitted]

theorem pageShifts_coarse (granule : Nat) : ∀ shift ∈ pageShifts granule, 12 ≤ shift := by
  unfold pageShifts
  split
  · decide
  · split <;> decide

theorem frame_congr {left right : Nat} (same : left >>> 12 = right >>> 12) (memory : Memory)
    (context : Bytes) (mapped : (frame memory context left).1 = true) :
    frame memory context right =
      (true, ((frame memory context left).2 >>> 12 <<< 12) ||| (right &&& 0xfff)) := by
  unfold frame at *
  by_cases empty : TctEntry.root context = 0
  · simp [empty] at mapped
  · rw [if_neg empty] at mapped
    rw [if_neg empty, if_neg empty,
      walkTokenPageTable_congr same memory _ _ (pageShifts_coarse _), if_pos mapped]

/-- A translation succeeds where the context permits the access and maps the page. -/
theorem fresh_succeeds_iff {memory : Memory} {tect : Nat} {request : Request}
    (small : request.token < entries) :
    (fresh memory tect request).1 = true ↔
      ∃ context, contextAt memory tect request.token = some context ∧
        Permitted memory context request.address request.write ∧
        (frame memory context request.address).1 = true := by
  rw [fresh_eq memory tect request small]
  cases contextAt memory tect request.token with
  | none => simp
  | some context =>
      by_cases permitted : Permitted memory context request.address request.write <;>
        simp [permitted]

/-- A successful translation gives the frame of the page. -/
theorem fresh_of_permitted {memory : Memory} {tect : Nat} {request : Request} {context : Bytes}
    (small : request.token < entries)
    (found : contextAt memory tect request.token = some context)
    (permitted : Permitted memory context request.address request.write) :
    fresh memory tect request = frame memory context request.address := by
  rw [fresh_eq memory tect request small, found]
  exact if_pos permitted

end Udma.Ummu
