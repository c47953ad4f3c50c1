import Udma.Ummu.Generic

/-!
# Accesses to generic IO-virtual addresses

`ReadIoVirtual` and `WriteIoVirtual` translate the first byte and access the
following physical bytes.  Where the pages of the range do not follow each other,
or are not all permitted, these are not the bytes that the addresses are mapped to.
-/

namespace Udma.Ummu.Generic

open Abi (Bytes)

variable {config : GenericConfig} {ram : Ram} {state : Generic} {address : Fin (2 ^ 64)}
  {write : Bool}

/-- The address of a byte of a range. -/
def byteAddress (address : Fin (2 ^ 64)) (index : Nat) : Fin (2 ^ 64) :=
  ⟨(address + index) % 2 ^ 64, Nat.mod_lt _ (by decide)⟩

/-- Every byte of the access is the one to which its address is translated. -/
def Faithful (config : GenericConfig) (memory : Memory) (state : Generic)
    (address : Fin (2 ^ 64)) (length : Nat) (write : Bool) (access : Option DmaRead) : Prop :=
  ∀ dma, access = some dma → dma.length = length ∧
    ∀ index < length,
      (state.translateIoVirtual config memory (byteAddress address index) write).1 =
        (true, dma.address + index)

/-- Every byte of the range is served by a token, and the frames of its pages follow
each other. -/
def Contiguous (memory : Memory) (state : Generic) (address : Fin (2 ^ 64)) (length : Nat)
    (write : Bool) : Prop :=
  ∃ number, ∀ index < length, ∃ token physical,
    state.Serves memory token (byteAddress address index) write ∧
      frameOf memory state.tect token (byteAddress address index) = some (true, physical) ∧
      physical >>> 12 = number + (address % 4096 + index) / 4096

/-- No token serves the first byte. -/
def Untranslated (memory : Memory) (state : Generic) (address : Fin (2 ^ 64)) (write : Bool) :
    Prop :=
  ∀ token, ¬ state.Serves memory token address write

/-! ## Physical addresses -/

/-- A frame keeps the offset in the page. -/
theorem frameOf_offset {memory : Memory} {tect token place physical : Nat}
    (framed : frameOf memory tect token place = some (true, physical)) :
    physical = (physical >>> 12) * 4096 + place % 4096 := by
  obtain ⟨context, -, mapped⟩ := Option.map_eq_some_iff.mp framed
  have kept := frame_congr rfl memory context (congrArg Prod.fst mapped)
  rw [mapped] at kept
  have split := congrArg Prod.snd kept
  dsimp only at split
  have low : place &&& 0xfff < 2 ^ 12 := Nat.lt_of_le_of_lt Nat.and_le_right (by decide)
  have offset : place &&& 0xfff = place % 4096 := Nat.and_two_pow_sub_one_eq_mod place 12
  rw [← Nat.shiftLeft_add_eq_or_of_lt low, offset, Nat.shiftLeft_eq] at split
  exact split

theorem byteAddress_offset (address : Fin (2 ^ 64)) (index : Nat) :
    (byteAddress address index).val % 4096 = (address % 4096 + index) % 4096 := by
  unfold byteAddress
  dsimp only
  omega

theorem byteAddress_zero (address : Fin (2 ^ 64)) : byteAddress address 0 = address :=
  Fin.ext (Nat.mod_eq_of_lt address.isLt)

/-- A token that serves an access maps its page. -/
theorem Serves.framed (sound : Sound ram.memory state.tect state) {token : Fin Ummu.entries}
    (serves : state.Serves ram.memory token address write) :
    ∃ physical, frameOf ram.memory state.tect token address = some (true, physical) := by
  rcases serves with ⟨-, answers⟩ | ⟨-, first⟩
  · obtain ⟨physical, framed, -⟩ :=
      @translateToken_answers ⟨⟨0⟩, false⟩ _ _ _ _ sound token answers
    exact ⟨physical, framed⟩
  · obtain ⟨context, found, -, mapped⟩ := first.translates
    refine ⟨(frame ram.memory context address).2, ?_⟩
    unfold frameOf
    rw [found, Option.map_some]
    exact congrArg some (Prod.ext mapped rfl)

theorem translateIoVirtual_ok_iff (sound : Sound ram.memory state.tect state) :
    (state.translateIoVirtual config ram.memory address write).1.1 = true ↔
      ∃ token, state.Serves ram.memory token address write := by
  constructor
  · intro ok
    obtain ⟨token, serves, -⟩ := (translateIoVirtual_eq_iff sound).mp (Prod.ext ok rfl)
    exact ⟨token, serves⟩
  · rintro ⟨token, serves⟩
    obtain ⟨physical, framed⟩ := serves.framed sound
    rw [(translateIoVirtual_eq_iff sound).mpr ⟨token, serves, framed⟩]

/-! ## The bytes of an access -/

/-- A translated access is faithful exactly when its pages are contiguous. -/
theorem faithful_iff_contiguous (sound : Sound ram.memory state.tect state) {length physical : Nat}
    (translated : (state.translateIoVirtual config ram.memory address write).1 =
      (true, physical)) :
    Faithful config ram.memory state address length write (some ⟨physical, length⟩) ↔
      state.Contiguous ram.memory address length write := by
  obtain ⟨first, -, firstFramed⟩ := (translateIoVirtual_eq_iff sound).mp translated
  have base := frameOf_offset firstFramed
  constructor
  · intro faithful
    obtain ⟨-, bytes⟩ := faithful _ rfl
    refine ⟨physical >>> 12, ?_⟩
    intro index inside
    obtain ⟨token, serves, framed⟩ := (translateIoVirtual_eq_iff sound).mp (bytes index inside)
    refine ⟨token, _, serves, framed, ?_⟩
    rw [Nat.shiftRight_eq_div_pow]
    dsimp only
    omega
  · rintro ⟨number, follows⟩ dma same
    cases same
    refine ⟨rfl, ?_⟩
    intro index inside
    -- the frame number of the range is the one of its first byte
    obtain ⟨start, place, startServes, startFramed, startNumber⟩ := follows 0 (by omega)
    have here : (state.translateIoVirtual config ram.memory (byteAddress address 0) write).1 =
        (true, place) := (translateIoVirtual_eq_iff sound).mpr ⟨start, startServes, startFramed⟩
    rw [byteAddress_zero, translated] at here
    obtain ⟨token, value, serves, framed, numbered⟩ := follows index inside
    have offset := frameOf_offset framed
    rw [byteAddress_offset] at offset
    have whole : value = physical + index := by
      have equal : physical = place := congrArg Prod.snd here
      omega
    rw [(translateIoVirtual_eq_iff sound).mpr ⟨token, serves, framed⟩, whole]

theorem faithful_iff (sound : Sound ram.memory state.tect state) (length : Nat) :
    Faithful config ram.memory state address length write
        (state.accessIoVirtual config ram.memory address length write) ↔
      state.Contiguous ram.memory address length write ∨
        (config.identityIovaTestMode = false ∧ state.Untranslated ram.memory address write) := by
  unfold accessIoVirtual
  by_cases ok : (state.translateIoVirtual config ram.memory address write).1.1 = true
  · have translated : (state.translateIoVirtual config ram.memory address write).1 =
        (true, (state.translateIoVirtual config ram.memory address write).1.2) :=
      Prod.ext ok rfl
    obtain ⟨token, serves⟩ := (translateIoVirtual_ok_iff sound).mp ok
    have served : ¬ (config.identityIovaTestMode = false ∧
        state.Untranslated ram.memory address write) :=
      fun unserved => unserved.2 token serves
    dsimp only
    rw [if_pos ok, faithful_iff_contiguous sound translated, or_iff_left served]
  · have untranslated : state.Untranslated ram.memory address write :=
      fun token serves => ok ((translateIoVirtual_ok_iff sound).mpr ⟨token, serves⟩)
    dsimp only
    rw [if_neg ok]
    by_cases test : config.identityIovaTestMode = true
    · rw [if_pos test]
      by_cases empty : length = 0
      · subst empty
        refine iff_of_true ?_ (.inl ⟨0, fun index inside => by omega⟩)
        intro dma same
        cases same
        exact ⟨rfl, fun index inside => by omega⟩
      · refine iff_of_false ?_ ?_
        · intro faithful
          have here := (faithful _ rfl).2 0 (by omega)
          rw [byteAddress_zero] at here
          exact ok (by rw [here])
        · rintro (⟨number, follows⟩ | ⟨off, -⟩)
          · obtain ⟨token, physical, serves, -⟩ := follows 0 (by omega)
            rw [byteAddress_zero] at serves
            exact untranslated token serves
          · rw [test] at off
            cases off
    · rw [if_neg test]
      refine iff_of_true ?_ (.inr ⟨eq_false_of_ne_true test, untranslated⟩)
      intro dma same
      cases same

/-- With tables that do not change, and after any translations, an access is faithful
exactly when its bytes are served by tokens that map the pages of the range to
consecutive frames, or when nothing is accessed because the first byte is not mapped. -/
theorem generic_access_iff (config : GenericConfig) (ram : Ram) (registers : Registers)
    (history : List Call) (address : Fin (2 ^ 64)) :
    let state := after config ram.memory registers history
    (∀ length, Faithful config ram.memory state address length false
        (state.readIoVirtual config ram.memory address length) ↔
      state.Contiguous ram.memory address length false ∨
        (config.identityIovaTestMode = false ∧ state.Untranslated ram.memory address false)) ∧
    ∀ data : Bytes, Faithful config ram.memory state address data.length true
        (state.writeIoVirtual config ram.memory address data) ↔
      state.Contiguous ram.memory address data.length true ∨
        (config.identityIovaTestMode = false ∧ state.Untranslated ram.memory address true) := by
  have sound := sound_after config ram.memory registers history
  rw [← sound.base] at sound
  exact ⟨fun length => faithful_iff sound length, fun data => faithful_iff sound data.length⟩

/-- Two bytes on either side of the first GiB of token 5: the second one is in a frame
that does not follow, and the byte that is read is not mapped at all. -/
theorem read_crosses_into_unmapped_frame :
    ¬ ∀ (config : GenericConfig) (ram : Ram) (registers : Registers) (history : List Call)
      (address : Fin (2 ^ 64)) (length : Nat),
      Faithful config ram.memory (after config ram.memory registers history) address length false
        ((after config ram.memory registers history).readIoVirtual config ram.memory address
          length) := by
  intro claim
  have faithful := claim ⟨⟨4096⟩, false⟩ twoTokens twoTokenRegisters [.generic 0x40000000 false]
    0x3fffffff 2
  have bytes := (faithful ⟨0xbfffffff, 2⟩ (by decide +kernel)).2 1 (by decide)
  revert bytes
  decide +kernel

end Udma.Ummu.Generic
