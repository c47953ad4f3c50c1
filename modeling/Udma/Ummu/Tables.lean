import Udma.Abi
import Udma.Transition.Script

/-!
# Token translation tables

The walk of `UdmaModel::TranslateToken` through the target-entity table, the
token-context table, the permission table (MAPT) and the page table of a token.
Every table is in guest memory, so a walk is a script of DMA reads.
-/

namespace Udma.Ummu

open Transition (Script)
open Abi (Bytes load32 load64)

/-- A call of `host_.DmaRead`. -/
structure DmaRead where
  address : Nat
  length : Nat
  deriving DecidableEq, Repr

/-- What its callback is given. -/
structure Delivery where
  ok : Bool
  bytes : Bytes
  deriving DecidableEq, Repr

/-- A walk ends with the arguments of `TranslateCompletion`. -/
abbrev TableScript := Script DmaRead Delivery (Bool × Nat)

def dmaRead (address length : Nat) : Script DmaRead Delivery Delivery :=
  .call ⟨address, length⟩

def Delivery.complete (delivery : Delivery) (length : Nat) : Bool :=
  delivery.ok && delivery.bytes.length == length

/-- The arguments of one `TranslateToken` call. -/
structure Request where
  token : Nat
  address : Nat
  write : Bool
  token_lt : token < 2 ^ 32
  address_lt : address < 2 ^ 64
  deriving DecidableEq

def Request.page (request : Request) : Nat := request.address >>> 12

/-- The key of the IOTLB; `token << 52` is a 64-bit shift. -/
def Request.cacheKey (request : Request) : Nat :=
  (if request.write then 1 <<< 63 else 0) ||| ((request.token <<< 52) % 2 ^ 64) |||
    (request.address >>> 12)

def addressMask : Nat := 0x0000fffffffff000
def tctRootAddressMask : Nat := 0x000ffffffffffff0
def maptAddressMask : Nat := 0x0000ffffffffffe0

/-- Number of token contexts. -/
def entries : Nat := 1024

/-! ## Permission table -/

namespace MaptNode

def valid (node : Bytes) : Bool := load32 node 0 &&& 1 != 0
def leaf (node : Bytes) : Bool := load32 node 0 &&& 2 != 0
def crossesBlock (node : Bytes) : Bool := load32 node 0 &&& (1 <<< 2) != 0
def permission (node : Bytes) : Nat := (load32 node 0 >>> 4) &&& 0x3f

def allowed (node : Bytes) (write : Bool) : Bool :=
  if write then permission node &&& 1 != 0 else permission node &&& 2 != 0

def tokenCheck (node : Bytes) : Bool := load32 node 12 >>> 31 != 0

/-- A single entry keeps 48-bit bounds, a leaf of the table 39-bit ones. -/
def base (node : Bytes) (highMask : Nat) : Nat :=
  load32 node 8 ||| ((load32 node 12 &&& highMask) <<< 32)

def limit (node : Bytes) (highMask : Nat) : Nat :=
  load32 node 16 ||| ((load32 node 20 &&& highMask) <<< 32)

def nextOffset (node : Bytes) : Nat :=
  ((load32 node 4 &&& 0x3ff) <<< 20) ||| (load32 node 0 >>> 12)

def nextBlockIndex (node : Bytes) : Nat := load32 node 4 >>> 16

end MaptNode

/-- One node of the table; `walk` goes on at the next level, in the block and at
the level base it is given. -/
def checkMaptNode (walk : Nat → Nat → TableScript) (blockTable block levelBase address : Nat)
    (write : Bool) (shift : Nat) : TableScript := do
  let reply ← dmaRead (levelBase + ((address >>> shift) &&& 0x1ff) * 32) 32
  if !reply.complete 32 then pure (false, 0)
  else if !MaptNode.valid reply.bytes then pure (false, 0)
  else if MaptNode.leaf reply.bytes then
    let within := address &&& (2 ^ shift - 1)
    pure (!MaptNode.tokenCheck reply.bytes && MaptNode.allowed reply.bytes write &&
      decide (MaptNode.base reply.bytes 0x7f ≤ within) &&
      decide (within ≤ MaptNode.limit reply.bytes 0x7f), 0)
  else
    let nextOffset := MaptNode.nextOffset reply.bytes
    if !MaptNode.crossesBlock reply.bytes then walk block (block + nextOffset * 32)
    else if blockTable = 0 then pure (false, 0)
    else do
      let descriptor ← dmaRead (blockTable + MaptNode.nextBlockIndex reply.bytes * 8) 8
      let value := load64 descriptor.bytes 0
      let nextBase := value &&& maptAddressMask
      if !descriptor.complete 8 then pure (false, 0)
      else if value &&& 1 = 0 ∨ nextBase = 0 then pure (false, 0)
      else walk nextBase (nextBase + nextOffset * 32)

/-- The walk over the levels whose shifts are still to come. -/
def walkMaptTable (blockTable address : Nat) (write : Bool) :
    (shifts : List Nat) → (block levelBase : Nat) → TableScript
  | [], _, _ => pure (false, 0)
  | shift :: rest, block, levelBase =>
      if block = 0 then pure (false, 0)
      else checkMaptNode (walkMaptTable blockTable address write rest) blockTable block
        levelBase address write shift

def maptShifts : List Nat := [39, 30, 21, 12]

namespace TctEntry

def valid (context : Bytes) : Bool := load64 context 0 &&& 1 != 0
def maptEnabled (context : Bytes) : Bool := load64 context 0 &&& (1 <<< 19) != 0
def maptTable (context : Bytes) : Bool := load64 context 0 &&& (1 <<< 16) != 0
def granule (context : Bytes) : Nat := (load64 context 8 >>> 6) &&& 3
def root (context : Bytes) : Nat := load64 context 16 &&& tctRootAddressMask
def block (context : Bytes) : Nat := load64 context 24 &&& maptAddressMask
def blockTable (context : Bytes) : Nat := load64 context 32 &&& maptAddressMask

end TctEntry

/-- Whether the token's permissions allow the access, with the root of its page table. -/
def checkMapt (context : Bytes) (address : Nat) (write : Bool) : TableScript :=
  if !TctEntry.maptEnabled context then pure (true, TctEntry.root context)
  else if TctEntry.block context = 0 then pure (false, 0)
  else if !TctEntry.maptTable context then do
    let node ← dmaRead (TctEntry.block context) 32
    if !node.complete 32 then pure (false, 0)
    else
      pure (MaptNode.valid node.bytes && !MaptNode.tokenCheck node.bytes &&
        MaptNode.allowed node.bytes write &&
        decide (MaptNode.base node.bytes 0xffff ≤ address) &&
        decide (address ≤ MaptNode.limit node.bytes 0xffff), TctEntry.root context)
  else do
    let checked ← walkMaptTable (TctEntry.blockTable context) address write maptShifts
      (TctEntry.block context) (TctEntry.block context)
    pure (checked.1, TctEntry.root context)

/-! ## Page table -/

/-- The levels of the page table; only granules 0 (4 KiB) and 1 (64 KiB) exist. -/
def pageShifts (granule : Nat) : List Nat :=
  if granule > 1 then []
  else if granule = 1 then [42, 29, 16]
  else [39, 30, 21, 12]

def pageIndexMask (granule : Nat) : Nat := if granule = 1 then 0x1fff else 0x1ff

def pageAddressMask (granule : Nat) : Nat :=
  if granule = 1 then 0x0000ffffffff0000 else 0x0000fffffffff000

def walkTokenPageTable (address granule : Nat) :
    (shifts : List Nat) → (level table : Nat) → TableScript
  | [], _, _ => pure (false, 0)
  | shift :: rest, level, table => do
      let reply ← dmaRead (table + ((address >>> shift) &&& pageIndexMask granule) * 8) 8
      let descriptor := load64 reply.bytes 0
      let output := descriptor &&& pageAddressMask granule
      if !reply.complete 8 then pure (false, 0)
      else if descriptor &&& 1 = 0 then pure (false, 0)
      else if rest = [] then pure (true, output ||| (address &&& (2 ^ shift - 1)))
      else if descriptor &&& 3 = 1 ∧ level ≠ 0 then
        -- a block mapping; `output & ~(block - 1)` keeps the bits from `shift` on
        pure (true, ((output >>> shift) <<< shift) ||| (address &&& (2 ^ shift - 1)))
      else walkTokenPageTable address granule rest (level + 1) output

/-! ## The walk of a token -/

/-- The part of `TranslateToken` behind a miss in the IOTLB. -/
def walkTables (tect : Nat) (request : Request) : TableScript :=
  if entries ≤ request.token then pure (false, 0)
  else if tect = 0 then pure (false, 0)
  else do
    let entry ← dmaRead tect 64
    let tct := load64 entry.bytes 8 &&& addressMask
    if !entry.complete 64 || load64 entry.bytes 0 &&& 1 == 0 then pure (false, 0)
    else if tct = 0 then pure (false, 0)
    else do
      let context ← dmaRead (tct + request.token * 64) 64
      if !context.complete 64 || !TctEntry.valid context.bytes then pure (false, 0)
      else do
        let permitted ← checkMapt context.bytes request.address request.write
        if !permitted.1 || permitted.2 == 0 then pure (false, 0)
        else
          walkTokenPageTable request.address (TctEntry.granule context.bytes)
            (pageShifts (TctEntry.granule context.bytes)) 0 permitted.2

end Udma.Ummu
