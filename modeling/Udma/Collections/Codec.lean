import Mathlib

/-!
# Codecs of streams

A codec writes values and reads them back off the front of a stream.  Some values are written
although no reader takes them back; `fits` says of a well-formed value whether it is read.  A
reader does not look behind what it takes, so that a stream that was cut is not read.
-/

namespace Udma.Collections

universe u v w

structure Codec (Item : Type u) (Value : Type v) where
  Formed : Value → Prop
  fits : Value → Bool
  write : Value → List Item
  read : List Item → Option (Value × List Item)
  read_write : ∀ value, Formed value → ∀ rest,
    read (write value ++ rest) = if fits value then some (value, rest) else none
  read_append : ∀ stream value rest more, read stream = some (value, rest) →
    read (stream ++ more) = some (value, rest ++ more)

namespace Codec

variable {Item : Type u} {Value : Type v} {Other : Type w}

/-- A value that was cut is not read. -/
theorem read_cut (codec : Codec Item Value) {value : Value} (formed : codec.Formed value)
    {stream more : List Item} (cut : codec.write value = stream ++ more) (some_ : more ≠ []) :
    codec.read stream = none := by
  cases taken : codec.read stream with
  | none => rfl
  | some result =>
      obtain ⟨other, rest⟩ := result
      have longer := codec.read_append stream other rest more taken
      have whole := codec.read_write value formed []
      rw [List.append_nil, cut, longer] at whole
      split at whole
      · have short : rest ++ more = [] := congrArg Prod.snd (Option.some.inj whole)
        exact absurd (List.append_eq_nil_iff.mp short).2 some_
      · cases whole

/-- Nothing is written, and the value is known. -/
def nothing (value : Value) : Codec Item Value where
  Formed := fun other => other = value
  fits := fun _ => true
  write := fun _ => []
  read := fun stream => some (value, stream)
  read_write := by
    rintro _ rfl rest
    rfl
  read_append := by
    intro stream other rest more taken
    obtain ⟨rfl, rfl⟩ := Prod.mk.inj (Option.some.inj taken)
    rfl

/-- Values of one size. -/
def fixed (size : Nat) (encode : Value → List Item) (decode : List Item → Value)
    (length : ∀ value, (encode value).length = size)
    (decode_encode : ∀ value, decode (encode value) = value) : Codec Item Value where
  Formed := fun _ => True
  fits := fun _ => true
  write := encode
  read := fun stream =>
    if stream.length < size then none else some (decode (stream.take size), stream.drop size)
  read_write := by
    intro value _ rest
    have whole : ¬ (encode value ++ rest).length < size := by
      rw [List.length_append, length]
      exact Nat.not_lt.mpr (Nat.le_add_right _ _)
    rw [if_neg whole, List.take_left' (length value), List.drop_left' (length value),
      decode_encode]
    rfl
  read_append := by
    intro stream value rest more taken
    split at taken
    · cases taken
    next whole =>
      obtain ⟨rfl, rfl⟩ := Prod.mk.inj (Option.some.inj taken)
      have inside := Nat.le_of_not_lt whole
      have longer : ¬ (stream ++ more).length < size := by
        rw [List.length_append]
        omega
      rw [if_neg longer, List.take_append_of_le_length inside,
        List.drop_append_of_le_length inside]

/-- The same values in another shape. -/
def reshape (codec : Codec Item Value) (there : Value → Other) (back : Other → Value) :
    Codec Item Other where
  Formed := fun value => codec.Formed (back value) ∧ there (back value) = value
  fits := fun value => codec.fits (back value)
  write := fun value => codec.write (back value)
  read := fun stream => (codec.read stream).map fun taken => (there taken.1, taken.2)
  read_write := by
    rintro value ⟨formed, same⟩ rest
    rw [codec.read_write _ formed]
    cases codec.fits (back value) with
    | false => rfl
    | true =>
        rw [if_pos rfl, Option.map_some, same]
        rfl
  read_append := by
    intro stream value rest more taken
    obtain ⟨⟨inner, behind⟩, opened, same⟩ := Option.map_eq_some_iff.mp taken
    obtain ⟨rfl, rfl⟩ := Prod.mk.inj same
    rw [codec.read_append _ _ _ more opened]
    rfl

/-- A value is read only if it passes a test. -/
def check (codec : Codec Item Value) (test : Value → Bool) : Codec Item Value where
  Formed := codec.Formed
  fits := fun value => codec.fits value && test value
  write := codec.write
  read := fun stream => (codec.read stream).filter fun taken => test taken.1
  read_write := by
    intro value formed rest
    rw [codec.read_write _ formed]
    cases codec.fits value with
    | false => rfl
    | true => cases tested : test value <;> simp [tested]
  read_append := by
    intro stream value rest more taken
    obtain ⟨opened, tested⟩ := Option.filter_eq_some_iff.mp taken
    rw [codec.read_append _ _ _ more opened]
    exact Option.filter_eq_some_iff.mpr ⟨rfl, tested⟩

/-- The second value is written in a way that the first one decides. -/
def dependent (first : Codec Item Value) (second : Value → Codec Item Other) :
    Codec Item (Value × Other) where
  Formed := fun both => first.Formed both.1 ∧ (second both.1).Formed both.2
  fits := fun both => first.fits both.1 && (second both.1).fits both.2
  write := fun both => first.write both.1 ++ (second both.1).write both.2
  read := fun stream => (first.read stream).bind fun taken =>
    ((second taken.1).read taken.2).map fun behind => ((taken.1, behind.1), behind.2)
  read_write := by
    rintro ⟨value, other⟩ ⟨formed, behind⟩ rest
    rw [List.append_assoc, first.read_write value formed]
    cases fitting : first.fits value with
    | false => rfl
    | true =>
        rw [if_pos rfl, Option.bind_some, (second value).read_write other behind]
        cases (second value).fits other <;> rfl
  read_append := by
    rintro stream ⟨value, other⟩ rest more taken
    obtain ⟨⟨head, middle⟩, opened, mapped⟩ := Option.bind_eq_some_iff.mp taken
    obtain ⟨⟨tail, behind⟩, closed, same⟩ := Option.map_eq_some_iff.mp mapped
    obtain ⟨heads, rfl⟩ := Prod.mk.inj same
    obtain ⟨rfl, rfl⟩ := Prod.mk.inj heads
    rw [first.read_append _ _ _ more opened, Option.bind_some,
      (second head).read_append _ _ _ more closed]
    rfl

/-- One value behind another. -/
def pair (first : Codec Item Value) (second : Codec Item Other) : Codec Item (Value × Other) :=
  first.dependent fun _ => second

/-! ## Rows -/

def readMany (codec : Codec Item Value) : Nat → List Item → Option (List Value × List Item)
  | 0, stream => some ([], stream)
  | count + 1, stream => (codec.read stream).bind fun taken =>
      (codec.readMany count taken.2).map fun behind => (taken.1 :: behind.1, behind.2)

theorem readMany_append (codec : Codec Item Value) {count : Nat} {stream : List Item}
    {values : List Value} {rest : List Item} (more : List Item)
    (taken : codec.readMany count stream = some (values, rest)) :
    codec.readMany count (stream ++ more) = some (values, rest ++ more) := by
  induction count generalizing stream values with
  | zero =>
      obtain ⟨rfl, rfl⟩ := Prod.mk.inj (Option.some.inj taken)
      rfl
  | succ count inductionHypothesis =>
      obtain ⟨⟨head, middle⟩, opened, mapped⟩ := Option.bind_eq_some_iff.mp taken
      obtain ⟨⟨tail, behind⟩, closed, same⟩ := Option.map_eq_some_iff.mp mapped
      obtain ⟨rfl, rfl⟩ := Prod.mk.inj same
      rw [readMany, codec.read_append _ _ _ more opened, Option.bind_some,
        inductionHypothesis closed]
      rfl

theorem readMany_write (codec : Codec Item Value) {values : List Value}
    (formed : ∀ value ∈ values, codec.Formed value) (rest : List Item) :
    codec.readMany values.length (values.flatMap codec.write ++ rest) =
      if values.all codec.fits then some (values, rest) else none := by
  induction values with
  | nil => rfl
  | cons value values inductionHypothesis =>
      rw [List.length_cons, readMany, List.flatMap_cons, List.append_assoc,
        codec.read_write value (formed value List.mem_cons_self), List.all_cons]
      cases fitting : codec.fits value with
      | false => rfl
      | true =>
          rw [if_pos rfl, Option.bind_some,
            inductionHypothesis fun other listed => formed other (List.mem_cons_of_mem _ listed)]
          cases values.all codec.fits <;> rfl

/-- `size` values. -/
def repeated (codec : Codec Item Value) (size : Nat) : Codec Item (List Value) where
  Formed := fun values => values.length = size ∧ ∀ value ∈ values, codec.Formed value
  fits := fun values => values.all codec.fits
  write := fun values => values.flatMap codec.write
  read := codec.readMany size
  read_write := by
    rintro values ⟨rfl, formed⟩ rest
    exact codec.readMany_write formed rest
  read_append := fun _ _ _ more taken => codec.readMany_append more taken

/-- Their number, and then the values themselves; a number above the limit is refused. -/
def counted (size : Codec Item Nat) (limit : Nat) (codec : Codec Item Value) :
    Codec Item (List Value) where
  Formed := fun values => size.Formed values.length ∧ ∀ value ∈ values, codec.Formed value
  fits := fun values =>
    size.fits values.length && decide (values.length ≤ limit) && values.all codec.fits
  write := fun values => size.write values.length ++ values.flatMap codec.write
  read := fun stream => (size.read stream).bind fun taken =>
    if limit < taken.1 then none else codec.readMany taken.1 taken.2
  read_write := by
    rintro values ⟨sized, formed⟩ rest
    rw [List.append_assoc, size.read_write _ sized]
    cases fitting : size.fits values.length with
    | false => rfl
    | true =>
        rw [if_pos rfl, Option.bind_some]
        by_cases above : limit < values.length
        · simp [above]
        · simp only [if_neg above, codec.readMany_write formed, Nat.le_of_not_lt above,
            decide_true, Bool.true_and]
  read_append := by
    intro stream values rest more taken
    obtain ⟨⟨count, middle⟩, opened, closed⟩ := Option.bind_eq_some_iff.mp taken
    rw [size.read_append _ _ _ more opened, Option.bind_some]
    split at closed
    · cases closed
    next under =>
      rw [if_neg under]
      exact codec.readMany_append more closed

end Codec

end Udma.Collections
