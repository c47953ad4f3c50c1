import Mathlib

/-!
# Send-queue descriptor format

The accessors of `abi::SqWqe` and the constants of `udma_abi.h`.  A descriptor
is a byte list; every field lies in its first 64 bytes, so the accessors read
the list itself rather than a copy of its first block.
-/

namespace Udma.Abi

abbrev Bytes := List UInt8

/-- Queue shifts are four bits. -/
instance neZero_shiftRange : NeZero 16 := ⟨Nat.succ_ne_zero 15⟩

def wqebbBytes : Nat := 64
def sgeBytes : Nat := 16

def byteAt (bytes : Bytes) (offset : Nat) : Nat := (bytes.getD offset 0).toNat

def load32 (bytes : Bytes) (offset : Nat) : Nat :=
  byteAt bytes offset ||| (byteAt bytes (offset + 1) <<< 8) |||
    (byteAt bytes (offset + 2) <<< 16) ||| (byteAt bytes (offset + 3) <<< 24)

def load64 (bytes : Bytes) (offset : Nat) : Nat :=
  load32 bytes offset ||| (load32 bytes (offset + 4) <<< 32)

def store32 (value : Nat) : Bytes :=
  [UInt8.ofNat value, UInt8.ofNat (value >>> 8), UInt8.ofNat (value >>> 16),
    UInt8.ofNat (value >>> 24)]

def store64 (value : Nat) : Bytes := store32 value ++ store32 (value >>> 32)

/-- Scatter-gather element: length, token and address. -/
structure Sge where
  length : Nat
  token : Nat
  address : Nat
  deriving DecidableEq, Repr

namespace SqWqe

def flags (raw : Bytes) : Nat := (load32 raw 0 >>> 16) &&& 0x7f
def placeOrder (raw : Bytes) : Nat := flags raw &&& 0x3
def completion (raw : Bytes) : Bool := flags raw &&& (1 <<< 5) != 0
def inlinePayload (raw : Bytes) : Bool := flags raw &&& (1 <<< 6) != 0
def owner (raw : Bytes) : Bool := load32 raw 0 >>> 31 != 0
def opcode (raw : Bytes) : Nat := (load32 raw 4 >>> 8) &&& 0xff
def inlineLength (raw : Bytes) : Nat := load32 raw 4 >>> 22
def tpn (raw : Bytes) : Nat := load32 raw 8 &&& 0xffffff
def sgeCount (raw : Bytes) : Nat := load32 raw 8 >>> 24
def remoteJetty (raw : Bytes) : Nat := load32 raw 12 &&& 0xfffff
def remoteSegment (raw : Bytes) : Nat := remoteJetty raw
def remoteAddress (raw : Bytes) : Nat := load64 raw 40
def immediate (raw : Bytes) : Nat := load64 raw 40

def firstSge (raw : Bytes) : Sge :=
  ⟨load32 raw 48, load32 raw 52, load64 raw 56⟩

/-- Number of 64-byte blocks the descriptor occupies in the ring. -/
def wqebbCount (raw : Bytes) : Nat :=
  if inlinePayload raw then (48 + inlineLength raw + wqebbBytes - 1) / wqebbBytes
  else (48 + (sgeCount raw - 1) * sgeBytes) / wqebbBytes + 1

/-- Strong placement (`place_order == 2`) or the fence flag. -/
def ordered (raw : Bytes) : Bool := placeOrder raw == 2 || flags raw &&& 8 != 0

/-- The block a driver posts for a descriptor with one local element; the first word
also carries the low half of the producer for a direct write. -/
def image (owner : Bool) (producer flags opcode tpn : Nat) (remote : Nat) (sge : Sge) : Bytes :=
  store32 (producer ||| (flags <<< 16) ||| (owner.toNat <<< 31)) ++ store32 (opcode <<< 8) ++
    store32 (tpn ||| (1 <<< 24)) ++ store32 0 ++ List.replicate 24 0 ++ store64 remote ++
    store32 sge.length ++ store32 sge.token ++ store64 sge.address

theorem wqebbCount_pos (raw : Bytes) : 0 < wqebbCount raw := by
  unfold wqebbCount wqebbBytes
  split <;> omega

end SqWqe

end Udma.Abi
