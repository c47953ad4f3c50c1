import Mathlib

/-!
# Packed records in little-endian order

A packed record is a list of fields, each a width in bytes and a value.  Reading
the widths back from the front of a buffer recovers the values, whatever follows.
-/

namespace Udma.Arithmetic

/-- The low `width` bytes of a value, lowest first. -/
def toLittleEndian : (width value : Nat) → List UInt8
  | 0, _ => []
  | width + 1, value => UInt8.ofNat value :: toLittleEndian width (value / 256)

def ofLittleEndian : List UInt8 → Nat
  | [] => 0
  | byte :: rest => byte.toNat + 256 * ofLittleEndian rest

@[simp]
theorem toLittleEndian_length (width value : Nat) :
    (toLittleEndian width value).length = width := by
  induction width generalizing value with
  | zero => rfl
  | succ width inductionHypothesis => simp [toLittleEndian, inductionHypothesis]

@[simp]
theorem ofLittleEndian_toLittleEndian (width value : Nat) :
    ofLittleEndian (toLittleEndian width value) = value % 256 ^ width := by
  induction width generalizing value with
  | zero => simp [toLittleEndian, ofLittleEndian, Nat.mod_one]
  | succ width inductionHypothesis =>
      have byte : (UInt8.ofNat value).toNat = value % 256 := by simp
      simp only [toLittleEndian, ofLittleEndian, inductionHypothesis, byte]
      rw [Nat.pow_succ', Nat.mod_mul]

/-- The bytes of a packed record. -/
def packFields (fields : List (Nat × Nat)) : List UInt8 :=
  fields.flatMap fun field => toLittleEndian field.1 field.2

/-- The values of the fields with these widths at the front of a buffer. -/
def unpackFields : List Nat → List UInt8 → List Nat
  | [], _ => []
  | width :: widths, bytes =>
      ofLittleEndian (bytes.take width) :: unpackFields widths (bytes.drop width)

theorem toLittleEndian_ofLittleEndian (bytes : List UInt8) :
    toLittleEndian bytes.length (ofLittleEndian bytes) = bytes := by
  induction bytes with
  | nil => rfl
  | cons byte rest inductionHypothesis =>
      have low : byte.toNat < 256 := byte.toNat_lt
      have above : (byte.toNat + 256 * ofLittleEndian rest) / 256 = ofLittleEndian rest := by omega
      have first : UInt8.ofNat (byte.toNat + 256 * ofLittleEndian rest) = byte := by
        apply UInt8.toNat_inj.mp
        rw [UInt8.toNat_ofNat']
        omega
      rw [List.length_cons, ofLittleEndian, toLittleEndian, above, inductionHypothesis, first]

theorem packFields_length (fields : List (Nat × Nat)) :
    (packFields fields).length = (fields.map Prod.fst).sum := by
  simp [packFields, List.length_flatMap]

theorem unpackFields_packFields (fields : List (Nat × Nat)) (rest : List UInt8) :
    unpackFields (fields.map Prod.fst) (packFields fields ++ rest) =
      fields.map fun field => field.2 % 256 ^ field.1 := by
  induction fields with
  | nil => rfl
  | cons field fields inductionHypothesis =>
      have front : packFields (field :: fields) ++ rest =
          toLittleEndian field.1 field.2 ++ (packFields fields ++ rest) := by
        simp [packFields]
      have width := toLittleEndian_length field.1 field.2
      rw [List.map_cons, unpackFields, front, List.take_left' width, List.drop_left' width,
        ofLittleEndian_toLittleEndian, inductionHypothesis, List.map_cons]

end Udma.Arithmetic
