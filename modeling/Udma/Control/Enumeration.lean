import Udma.Abi.Words
import Udma.Control.Ubios

/-!
# The length of an enumeration

The answer to an enumeration holds the length of its common and TLV parts in eight
bits of its second common word, in units of four bytes.
-/

namespace Udma.Control.Ubios

open Udma.Abi Udma.Collections

/-! ## Words of a request -/

theorem Request.word_inside {request : Request} {offset : Nat}
    (inside : offset + 4 ≤ request.size) : request.word offset = load32 request.bytes offset := by
  have same (index : Nat) (small : index < 4) :
      request.byte (offset + index) = byteAt request.bytes (offset + index) := by
    have there : offset + index < request.bytes.length := by
      unfold size at inside
      omega
    unfold byte cell byteAt
    rw [List.getD_eq_getElem _ _ there, List.getD_eq_getElem _ _ there]
  unfold word load32
  rw [same 1 (by decide), same 2 (by decide), same 3 (by decide)]
  exact congrArg (fun byte => byte ||| _ ||| _ ||| _) (same 0 (by decide))

/-! ## The length field -/

theorem mask_field {length : Nat} (small : length < 256) : (length <<< 16) &&& 0xff00ffff = 0 := by
  refine Nat.eq_of_testBit_eq ?_
  intro bit
  rw [Nat.testBit_and, Nat.testBit_shiftLeft, Nat.zero_testBit]
  by_cases field : 16 ≤ bit ∧ bit < 24
  · have masked : ∀ place < 8, (0xff00ffff : Nat).testBit (16 + place) = false := by decide
    have clear := masked (bit - 16) (by omega)
    rw [Nat.add_sub_cancel' field.1] at clear
    rw [clear, Bool.and_false]
  · by_cases above : 16 ≤ bit
    · have none : length.testBit (bit - 16) = false :=
        Nat.testBit_lt_two_pow (Nat.lt_of_lt_of_le small
          (Nat.pow_le_pow_right (by decide : 0 < 2) (by omega : 8 ≤ bit - 16)))
      rw [none, Bool.and_false, Bool.false_and]
    · simp [above]

theorem field_of_or {common1 length : Nat} (small : length < 256) :
    ((((common1 &&& 0xff00ffff) ||| (length <<< 16)) >>> 16) &&& 0xff) = length := by
  have cleared : ((common1 &&& 0xff00ffff) >>> 16) &&& 0xff = 0 := by
    rw [Nat.shiftRight_and_distrib, Nat.and_assoc]
    exact Nat.and_zero _
  have kept : length &&& 0xff = length := by
    rw [Nat.and_two_pow_sub_one_eq_mod length 8, Nat.mod_eq_of_lt small]
  rw [Nat.shiftRight_or_distrib, Nat.and_or_distrib_right, cleared, Nat.shiftLeft_shiftRight,
    kept, Nat.zero_or]

theorem rest_of_or {common1 length : Nat} (small : length < 256) :
    ((common1 &&& 0xff00ffff) ||| (length <<< 16)) &&& 0xff00ffff = common1 &&& 0xff00ffff := by
  rw [Nat.and_or_distrib_right, mask_field small, Nat.or_zero, Nat.and_assoc, Nat.and_self]

theorem lengthWord_lt (ports : Ports) (opcode common1 : Nat) :
    lengthWord ports opcode common1 < 2 ^ 32 := by
  refine Nat.or_lt_two_pow ?_ ?_
  · exact Nat.lt_of_le_of_lt Nat.and_le_right (by decide)
  · have admitted := ports.admitted
    rw [Nat.shiftLeft_eq]
    unfold commonBytes extraBytes
    split
    · omega
    · split <;> decide

/-- The length of the common and the TLV parts fits its field. -/
theorem length_small_iff (ports : Ports) (opcode : Nat) :
    (commonBytes + extraBytes ports opcode) / 4 < 256 ↔ opcode ≠ 0 ∨ ports.count ≤ 34 := by
  unfold commonBytes extraBytes
  by_cases first : opcode = 0
  · rw [if_pos first]
    omega
  · rw [if_neg first]
    refine iff_of_true ?_ (.inl first)
    split <;> decide

/-! ## What is written behind the common words -/

/-- The action does not change the bytes of the response below `floor`. -/
def Above {Value : Type} (action : Build Value) (floor : Nat) : Prop :=
  ∀ (work : Work) (index : Nat), index < floor →
    (action work).2.response.getD index 0 = work.response.getD index 0

namespace Above

variable {Value Result : Type} {floor : Nat}

theorem bind {action : Build Value} {rest : Value → Build Result} (first : Above action floor)
    (second : ∀ value, Above (rest value) floor) : Above (action >>= rest) floor :=
  fun work index below => (second _ _ index below).trans (first work index below)

theorem branch {condition : Prop} [Decidable condition] {yes no : Build Value}
    (taken : Above yes floor) (skipped : Above no floor) :
    Above (if condition then yes else no) floor := by
  split
  · exact taken
  · exact skipped

theorem pure (value : Value) : Above (Pure.pure value : Build Value) floor :=
  fun _ _ _ => rfl

theorem storeLe {offset : Nat} (value : Nat) (order : floor ≤ offset) :
    Above (storeLe offset value) floor :=
  fun _ _ below => overwrite_outside 0 (.inl (Nat.lt_of_lt_of_le below order))

theorem copy {target : Nat} (request : Request) (start count : Nat) (order : floor ≤ target) :
    Above (copy target request start count) floor :=
  fun _ _ below => overwrite_outside 0 (.inl (Nat.lt_of_lt_of_le below order))

end Above

theorem portEntry_above (extra : Nat) (endpoint : Bool) (port : Nat) :
    Above (portEntry extra endpoint port) extra := by
  refine Above.bind (Above.storeLe _ (by omega)) fun _ => ?_
  refine Above.bind (Above.storeLe _ (by omega)) fun _ => ?_
  refine Above.bind (Above.storeLe _ (by omega)) fun _ => ?_
  exact Above.bind (Above.storeLe _ (by omega)) fun _ => Above.storeLe _ (by omega)

theorem portEntries_above (extra : Nat) (endpoint : Bool) (port left : Nat) :
    Above (portEntries extra endpoint port left) extra := by
  induction left generalizing port with
  | zero => exact Above.pure _
  | succ left inductionHypothesis =>
      exact Above.bind (portEntry_above extra endpoint port) fun _ => inductionHypothesis _

theorem tlvs_above (ports : Ports) (opcode extra : Nat) (endpoint : Bool) :
    Above (tlvs ports opcode extra endpoint) extra := by
  refine Above.branch ?_ (Above.branch (Above.storeLe _ (Nat.le_refl _)) (Above.pure _))
  refine Above.bind (Above.storeLe _ (by omega)) fun _ => ?_
  refine Above.bind (Above.storeLe _ (by omega)) fun _ => ?_
  refine Above.bind (Above.storeLe _ (by omega)) fun _ => ?_
  refine Above.bind (portEntries_above extra endpoint 0 ports.count) fun _ => ?_
  exact Above.bind (Above.storeLe _ (by omega)) fun _ => Above.storeLe _ (by omega)

/-! ## The answer to an enumeration -/

section Enumeration

variable {ports : Ports} {request : Request} {opcode scan : Nat}

/-- The common words as they are when the last of them has been stored. -/
theorem commonWords_word {work : Work} (size : work.response.length =
      enumerationBytes ports opcode scan) :
    load32 (commonWords ports request opcode scan work).2.response (responseCommon scan + 4) =
      lengthWord ports opcode (request.word (requestCommon scan + 4)) := by
  have room : responseCommon scan + 24 ≤ enumerationBytes ports opcode scan := by
    simp [enumerationBytes, commonBytes]
  let first := work.put (responseCommon scan) (store32 (0x01000000 ||| (opcode <<< 16)))
  let second := first.touch (requestCommon scan + 4) 4 request.size
  let word := lengthWord ports opcode (request.word (requestCommon scan + 4))
  let third := second.put (responseCommon scan + 4) (store32 word)
  have last : (commonWords ports request opcode scan work).2 =
      (copy (responseCommon scan + 8) request (requestCommon scan + 8) 16 third).2 := rfl
  have behind : Above (copy (responseCommon scan + 8) request (requestCommon scan + 8) 16)
      (responseCommon scan + 8) := Above.copy _ _ _ (Nat.le_refl _)
  rw [last, load32_congr fun index small => behind third _ (by omega)]
  have stored : third.response = overwrite second.response (responseCommon scan + 4)
      (store32 word) := rfl
  have kept : second.response.length = enumerationBytes ports opcode scan :=
    (overwrite_length ..).trans size
  rw [stored, load32_overwrite (by omega), Nat.mod_eq_of_lt (lengthWord_lt ..)]

/-- The answer to an accepted enumeration: its length and its second common word. -/
theorem enumerationResponse_word {work : Work} (size : 44 ≤ request.size)
    (enough : requestCommon (request.word 16) + commonBytes ≤ request.size) :
    let response := (enumerationResponse ports request opcode work).2.response
    response.length = enumerationBytes ports opcode (request.word 16) ∧
      load32 response (responseCommon (request.word 16) + 4) =
        lengthWord ports opcode
          (load32 request.bytes (requestCommon (request.word 16) + 4)) := by
  have fits : Fits (enumerationResponse ports request opcode) work.response.length _ _ :=
    enumerationResponse_fits size enough
  refine ⟨(fits work rfl).1, ?_⟩
  let loaded := work.touch 16 4 request.size
  obtain ⟨scan, read⟩ : ∃ scan, request.word 16 = scan := ⟨_, rfl⟩
  rw [read] at enough ⊢
  let headed := (enumerationHeader ports request opcode scan loaded).2
  let worded := (commonWords ports request opcode scan headed).2
  have final : (enumerationResponse ports request opcode work).2 =
      (tlvs ports opcode (responseCommon scan + commonBytes) (hops scan != 0) worded).2 := by
    subst read
    change ((ite _ _ _ : Build (Option Nat)) loaded).2 = _
    rw [if_neg (Nat.not_lt.mpr enough)]
    rfl
  have fitsHeader : Fits (enumerationHeader ports request opcode scan)
      loaded.response.length _ _ := enumerationHeader_fits enough
  have words : load32 worded.response (responseCommon scan + 4) =
      lengthWord ports opcode (request.word (requestCommon scan + 4)) :=
    commonWords_word (fitsHeader loaded rfl).1
  have common : requestCommon scan + 4 + 4 ≤ request.size := by
    unfold commonBytes at enough
    omega
  rw [final, load32_congr fun index small =>
    tlvs_above ports opcode _ _ worded _ (by unfold commonBytes; omega), words,
    Request.word_inside common]

theorem enumerationResponse_answers (work : Work)
    (enough : requestCommon (request.word 16) + commonBytes ≤ request.size) :
    (enumerationResponse ports request opcode work).1 = some opcode := by
  change ((ite _ _ _ : Build (Option Nat)) _).1 = _
  rw [if_neg (Nat.not_lt.mpr enough)]
  rfl

/-- An enumeration is answered when its common words are there. -/
theorem enumerationResponse_accepted {work : Work} {answered : Nat}
    (accepted : (enumerationResponse ports request opcode work).1 = some answered) :
    requestCommon (request.word 16) + commonBytes ≤ request.size := by
  by_contra short
  have refused : (enumerationResponse ports request opcode work).1 = none := by
    change ((ite _ _ _ : Build (Option Nat)) _).1 = _
    rw [if_pos (Nat.lt_of_not_le short)]
    rfl
  rw [refused] at accepted
  cases accepted

end Enumeration

/-- What the length field of an answer to an enumeration has to be, next to the size of
the receive slot. -/
structure Encoded (request : Request) (response : Bytes) : Prop where
  fits : response.length ≤ 0x800
  length : ((load32 response (responseCommon (request.word 16) + 4) >>> 16) &&& 0xff) * 4 =
    response.length - responseCommon (request.word 16)
  rest : load32 response (responseCommon (request.word 16) + 4) &&& 0xff00ffff =
    load32 request.bytes (requestCommon (request.word 16) + 4) &&& 0xff00ffff

theorem forwardBytes_le (scan : Nat) : forwardBytes scan ≤ 512 := by
  have hopsSmall : hops scan ≤ 255 := Nat.and_le_right
  have bits : hopBits scan ≤ 16 := by
    unfold hopBits
    split <;> decide
  have path := Nat.mul_le_mul bits hopsSmall
  unfold forwardBytes
  omega

theorem extraBytes_aligned (ports : Ports) (opcode : Nat) :
    (commonBytes + extraBytes ports opcode) / 4 * 4 = commonBytes + extraBytes ports opcode := by
  unfold commonBytes extraBytes
  split
  · omega
  · split <;> rfl

theorem enumeration_answered {ports : Ports} {device : Device} {sqe : Bytes} {request : Request}
    (enumeration : taskType sqe = 1) (small : opcode sqe ≤ 2)
    (enough : requestCommon (request.word 16) + commonBytes ≤ request.size) :
    (answer ports device sqe request).1.isSome := by
  have size := path_inside enough
  unfold commonBytes at size
  have found := shape_eq_enumeration_iff.mpr ⟨enumeration, small, (by omega : 44 ≤ request.size)⟩
  unfold answer buildUbiosResponse
  rw [found]
  dsimp only
  rw [enumerationResponse_answers _ enough]
  rfl

theorem encoded_iff_small {ports : Ports} {device : Device} {sqe : Bytes} {request : Request}
    (enumeration : taskType sqe = 1) (accepted : (answer ports device sqe request).1.isSome) :
    Encoded request (answer ports device sqe request).2.response ↔
      (commonBytes + extraBytes ports (opcode sqe)) / 4 < 256 := by
  obtain ⟨answered, done⟩ := Option.isSome_iff_exists.mp accepted
  unfold answer buildUbiosResponse at done ⊢
  rcases found : shape (taskType sqe) (opcode sqe) request.size with _ | kind | _ | _
  case none =>
    rw [found] at done
    cases done
  case some.management =>
    have zero := (shape_eq_management found).1
    omega
  case some.privateMessage =>
    have two := (shape_eq_private found).1
    omega
  case some.enumeration =>
    have size := (shape_eq_enumeration_iff.mp found).2.2
    rw [found] at done
    have enough := enumerationResponse_accepted done
    obtain ⟨length, word⟩ := @enumerationResponse_word ports request (opcode sqe) { device }
      size enough
    have aligned := extraBytes_aligned ports (opcode sqe)
    have path := forwardBytes_le (request.word 16)
    constructor
    · intro encoded
      have field := encoded.length
      have bound : ((load32 (enumerationResponse ports request (opcode sqe) { device }).2.response
          (responseCommon (request.word 16) + 4) >>> 16) &&& 0xff) ≤ 0xff := Nat.and_le_right
      dsimp only at field
      rw [length] at field
      unfold enumerationBytes at field
      omega
    · intro small
      dsimp only
      refine ⟨?_, ?_, ?_⟩
      · rw [length]
        unfold enumerationBytes responseCommon
        omega
      · rw [word, lengthWord, field_of_or small, length, aligned]
        unfold enumerationBytes
        omega
      · rw [word, lengthWord, rest_of_or small]

/-- The answer to an accepted enumeration has the right length exactly when the answer
to opcode 0 has the TLVs of at most 34 ports. -/
theorem enumeration_encoded_iff (ports : Ports) (device : Device) (sqe : Bytes)
    (request : Request) (enumeration : taskType sqe = 1)
    (accepted : (answer ports device sqe request).1.isSome) :
    Encoded request (answer ports device sqe request).2.response ↔
      opcode sqe ≠ 0 ∨ ports.count ≤ 34 :=
  (encoded_iff_small enumeration accepted).trans (length_small_iff ports (opcode sqe))

/-- An enumeration of opcode 0 without a path. -/
def bareEnumeration : Request where
  bytes := List.replicate 44 0
  beyond _ := 0

theorem enumeration_encoded_two_ports :
    Encoded bareEnumeration
      (answer ⟨2, by decide⟩ {} ([1, 0, 44, 0] ++ List.replicate 12 0)
        bareEnumeration).2.response :=
  (enumeration_encoded_iff ⟨2, by decide⟩ {} ([1, 0, 44, 0] ++ List.replicate 12 0)
    bareEnumeration (by decide) (enumeration_answered (by decide) (by decide) (by decide))).mpr
      (.inr (by decide))

/-- With 35 ports the length does not fit its field. -/
theorem enumeration_length_overflows :
    ¬ ∀ (ports : Ports) (device : Device) (sqe : Bytes) (request : Request),
      taskType sqe = 1 → (answer ports device sqe request).1.isSome →
        Encoded request (answer ports device sqe request).2.response := by
  intro claim
  have accepted : (answer ⟨35, by decide⟩ {} ([1, 0, 44, 0] ++ List.replicate 12 0)
      bareEnumeration).1.isSome := enumeration_answered (by decide) (by decide) (by decide)
  have small := (encoded_iff_small (by decide) accepted).mp
    (claim ⟨35, by decide⟩ {} ([1, 0, 44, 0] ++ List.replicate 12 0) bareEnumeration (by decide)
      accepted)
  exact absurd small (by decide)

end Udma.Control.Ubios
