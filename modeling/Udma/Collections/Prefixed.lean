import Mathlib

/-!
# Streams of length-prefixed frames

A frame is sent behind a header of fixed width that gives its length.  `parse` takes the
frames off the front of a stream, up to the first header that is not valid or the first frame
that is not whole.
-/

namespace Udma.Collections

universe u

/-- A header of `width` elements for the lengths that are valid. -/
structure LengthPrefix (Item : Type u) where
  width : Nat
  encode : Nat → List Item
  decode : List Item → Nat
  valid : Nat → Bool
  width_pos : 0 < width
  length_encode : ∀ length, (encode length).length = width
  decode_encode : ∀ length, valid length = true → decode (encode length) = length

namespace LengthPrefix

variable {Item : Type u} (format : LengthPrefix Item)

def packet (frame : List Item) : List Item := format.encode frame.length ++ frame

def Valid (frame : List Item) : Prop := format.valid frame.length = true

/-- The frames of a stream, at most `fuel` of them. -/
def parseWithin : Nat → List Item → List (List Item)
  | 0, _ => []
  | fuel + 1, stream =>
      let length := format.decode (stream.take format.width)
      if stream.length < format.width ∨ format.valid length = false ∨
          stream.length < format.width + length then []
      else (stream.drop format.width).take length ::
        parseWithin fuel (stream.drop (format.width + length))

def parse (stream : List Item) : List (List Item) := format.parseWithin stream.length stream

variable {format}

@[simp]
theorem length_packet (frame : List Item) :
    (format.packet frame).length = format.width + frame.length := by
  rw [packet, List.length_append, format.length_encode]

/-- A stream is used up before the fuel is. -/
theorem parseWithin_of_le {fuel : Nat} {stream : List Item} (enough : stream.length ≤ fuel) :
    format.parseWithin fuel stream = format.parse stream := by
  have step : ∀ fuel stream, stream.length ≤ fuel →
      format.parseWithin (fuel + 1) stream = format.parseWithin fuel stream := by
    intro fuel
    induction fuel with
    | zero =>
        intro stream enough
        have short : stream.length < format.width := by
          have := format.width_pos
          omega
        rw [parseWithin]
        exact if_pos (Or.inl short)
    | succ fuel inductionHypothesis =>
        intro stream enough
        rw [parseWithin, parseWithin]
        refine if_congr Iff.rfl rfl (congrArg _ (inductionHypothesis _ ?_))
        have := format.width_pos
        rw [List.length_drop]
        omega
  induction fuel with
  | zero =>
      rw [parse, Nat.le_zero.mp enough]
  | succ fuel inductionHypothesis =>
      rcases Nat.lt_or_eq_of_le enough with less | full
      · rw [step fuel stream (Nat.le_of_lt_succ less),
          inductionHypothesis (Nat.le_of_lt_succ less)]
      · rw [parse, full]

theorem parse_packet_append {frame : List Item} (valid : format.Valid frame) (rest : List Item) :
    format.parse (format.packet frame ++ rest) = frame :: format.parse rest := by
  have size : (format.packet frame ++ rest).length =
      format.width + frame.length + rest.length := by
    rw [List.length_append, length_packet]
  have header : (format.packet frame ++ rest).take format.width = format.encode frame.length := by
    rw [packet, List.append_assoc, List.take_left' (format.length_encode _)]
  have body : (format.packet frame ++ rest).drop format.width = frame ++ rest := by
    rw [packet, List.append_assoc, List.drop_left' (format.length_encode _)]
  have behind : (format.packet frame ++ rest).drop (format.width + frame.length) = rest := by
    rw [← List.drop_drop, body, List.drop_left]
  obtain ⟨fuel, counted⟩ : ∃ fuel, (format.packet frame ++ rest).length = fuel + 1 :=
    Nat.exists_eq_succ_of_ne_zero (by have := format.width_pos; omega)
  have whole : ¬ ((format.packet frame ++ rest).length < format.width ∨
      format.valid frame.length = false ∨
        (format.packet frame ++ rest).length < format.width + frame.length) := by
    rw [size, valid]
    simp
    omega
  rw [parse, counted, parseWithin]
  simp only [header, format.decode_encode _ valid]
  rw [if_neg whole, body, List.take_left, behind]
  refine congrArg _ (parseWithin_of_le ?_)
  have := format.width_pos
  omega

/-- The frames that were sent are the frames that are parsed, whatever follows. -/
theorem parse_packets_append {frames : List (List Item)}
    (valid : ∀ frame ∈ frames, format.Valid frame) (rest : List Item) :
    format.parse (frames.flatMap format.packet ++ rest) = frames ++ format.parse rest := by
  induction frames with
  | nil => rfl
  | cons frame frames inductionHypothesis =>
      rw [List.flatMap_cons, List.append_assoc,
        parse_packet_append (valid frame List.mem_cons_self),
        inductionHypothesis fun other listed => valid other (List.mem_cons_of_mem _ listed)]
      rfl

/-- Nothing is parsed of a packet that is not whole. -/
theorem parse_partial {frame : List Item} (valid : format.Valid frame) {count : Nat}
    (short : count < (format.packet frame).length) :
    format.parse ((format.packet frame).take count) = [] := by
  rw [length_packet] at short
  have size : ((format.packet frame).take count).length = count := by
    rw [List.length_take, length_packet]
    omega
  rw [parse, size]
  cases count with
  | zero => rfl
  | succ fuel =>
      rw [parseWithin]
      refine if_pos ?_
      by_cases narrow : fuel + 1 < format.width
      · exact .inl (by rw [size]; exact narrow)
      · have header : ((format.packet frame).take (fuel + 1)).take format.width =
            format.encode frame.length := by
          rw [List.take_take, Nat.min_eq_left (Nat.le_of_not_lt narrow), packet,
            List.take_left' (format.length_encode _)]
        rw [header, format.decode_encode _ valid, size]
        exact .inr (.inr short)

end LengthPrefix

end Udma.Collections
