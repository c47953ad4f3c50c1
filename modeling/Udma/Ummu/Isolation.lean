import Udma.Ummu.Moves

/-!
# Token isolation of the IOTLB

The key of the IOTLB keeps the low eleven bits of a token and merges its bit 11
with the direction.  A call for an existing token therefore only hits entries of
its own, but a call for a token beyond the table is answered from the IOTLB when
an existing token has the same key.
-/

namespace Udma.Ummu

open Transition (Reaches always execute exists_of_execute)

namespace Request

variable (request : Request)

theorem page_lt : request.page < 2 ^ 52 := by
  have := request.address_lt
  rw [page, Nat.shiftRight_eq_div_pow]
  omega

/-- The fields of a key: direction, token and page. -/
theorem cacheKey_eq :
    request.cacheKey = 2 ^ 63 * (request.write || request.token.testBit 11).toNat +
      2 ^ 52 * (request.token % 2048) + request.page := by
  have shifted : (request.token <<< 52) % 2 ^ 64 = 2 ^ 52 * (request.token % 4096) := by
    rw [Nat.shiftLeft_eq]
    omega
  have bit : request.token % 4096 = 2048 * (request.token.testBit 11).toNat +
      request.token % 2048 := by
    rw [Nat.testBit_eq_decide_div_mod_eq]
    by_cases high : request.token / 2 ^ 11 % 2 = 1
    · rw [decide_eq_true high, Bool.toNat_true]
      omega
    · rw [decide_eq_false high, Bool.toNat_false]
      omega
  have low : 2 ^ 52 * (request.token % 2048) + request.page < 2 ^ 63 := by
    have := request.page_lt
    omega
  have top := Nat.two_pow_add_eq_or_of_lt low 1
  rw [Nat.mul_one] at top
  unfold cacheKey
  rw [shifted, bit, Nat.or_assoc, ← page, ← Nat.two_pow_add_eq_or_of_lt request.page_lt]
  cases request.write <;> cases request.token.testBit 11
  · simp
  · simp only [Bool.toNat_true, Bool.false_or, Bool.false_eq_true, if_false, Nat.zero_or]
    omega
  · simp only [Bool.toNat_false, Bool.true_or, if_true, Nat.mul_zero, Nat.zero_add,
      Bool.toNat_true, Nat.one_shiftLeft]
    omega
  · have split : 2 ^ 52 * (2048 * 1 + request.token % 2048) + request.page =
        2 ^ 63 ||| (2 ^ 52 * (request.token % 2048) + request.page) := by
      rw [← top]
      omega
    simp only [Bool.toNat_true, Bool.true_or, if_true, Nat.one_shiftLeft]
    rw [split, ← Nat.or_assoc, Nat.or_self]
    omega

/-- The requests that share their key with a request for an existing token. -/
theorem cacheKey_eq_iff {other : Request} (small : other.token < entries) :
    request.cacheKey = other.cacheKey ↔
      request.page = other.page ∧ request.token.testBit 10 = false ∧
        request.token % entries = other.token ∧
        (request.write || request.token.testBit 11) = other.write := by
  have high : other.token.testBit 11 = false :=
    Nat.testBit_lt_two_pow (Nat.lt_trans small (by decide))
  have bit : request.token % 2048 = 1024 * (request.token.testBit 10).toNat +
      request.token % 1024 := by
    rw [Nat.testBit_eq_decide_div_mod_eq]
    by_cases set : request.token / 2 ^ 10 % 2 = 1
    · rw [decide_eq_true set, Bool.toNat_true]
      omega
    · rw [decide_eq_false set, Bool.toNat_false]
      omega
  have bound := request.page_lt
  have otherBound := other.page_lt
  rw [cacheKey_eq, cacheKey_eq, high, Bool.or_false, bit]
  unfold entries at *
  rw [Nat.mod_eq_of_lt (show other.token < 2048 by omega)]
  have digits : ∀ token, 2 ^ 52 * token + request.page = 2 ^ 52 * other.token + other.page ↔
      request.page = other.page ∧ token = other.token := by
    intro token
    constructor
    · intro same
      rcases Nat.lt_trichotomy token other.token with less | equal | more <;> omega
    · rintro ⟨page, rfl⟩
      rw [page]
  generalize (request.write || request.token.testBit 11) = direction
  generalize request.token.testBit 10 = tenth
  have within := Nat.mod_lt request.token (show 1024 > 0 by decide)
  generalize request.token % 1024 = token at within ⊢
  cases direction <;> cases other.write <;> cases tenth <;>
    simp only [Bool.toNat_true, Bool.toNat_false, reduceCtorEq, and_false, and_true, true_and,
      iff_false, false_and, Nat.mul_zero, Nat.zero_add, Nat.add_assoc, Nat.add_left_cancel_iff,
      digits] <;> omega

theorem cacheKey_injective {other : Request} (small : request.token < entries)
    (otherSmall : other.token < entries) (same : request.cacheKey = other.cacheKey) :
    request.token = other.token ∧ request.page = other.page ∧ request.write = other.write := by
  obtain ⟨page, _, token, write⟩ := (request.cacheKey_eq_iff otherSmall).mp same
  have high : request.token.testBit 11 = false :=
    Nat.testBit_lt_two_pow (Nat.lt_trans small (by decide))
  rw [Nat.mod_eq_of_lt small] at token
  rw [high, Bool.or_false] at write
  exact ⟨token, page, write⟩

end Request

/-! ## Finished calls -/

/-- A call that is over yields nothing more. -/
theorem yielded_of_over {config : Config} {start later : State} {serial : Nat}
    (known : serial < start.calls) (finished : ∀ walk ∈ start.walks, walk.serial ≠ serial)
    (reached : Reaches (step config) always start later) {source : Nat} {ok : Bool}
    {physical : Nat} (yielded : .yielded serial source ok physical ∈ later.trace) :
    .yielded serial source ok physical ∈ start.trace := by
  let Good (state : State) : Prop :=
    serial < state.calls ∧ (∀ walk ∈ state.walks, walk.serial ≠ serial) ∧
      (.yielded serial source ok physical ∈ state.trace →
        .yielded serial source ok physical ∈ start.trace)
  have advance : ∀ (state : State) (other : Nat) (request : Request) (script : TableScript),
      other ≠ serial → Good state → Good (state.advance config other request script) := by
    intro state other request script different ⟨named, gone, old⟩
    cases script with
    | done result =>
        refine ⟨?_, ?_, ?_⟩
        · simpa [State.advance] using named
        · simpa [State.advance] using gone
        · intro membership
          simp only [State.advance, State.conclude_trace, List.mem_append, List.mem_singleton,
            Observation.yielded.injEq] at membership
          rcases membership with earlier | ⟨same, _⟩
          · exact old earlier
          · exact absurd same.symm different
    | ask read resume =>
        refine ⟨named, ?_, old⟩
        intro walk membership
        rcases List.mem_append.mp membership with earlier | new
        · exact gone walk earlier
        · obtain rfl := List.mem_singleton.mp new
          exact different
  have good : Good later := by
    refine reached.invariant ⟨known, finished, id⟩ ?_
    intro before event after ⟨named, gone, old⟩ taken _
    have fresh : before.calls ≠ serial := Nat.ne_of_gt named
    cases step_moved taken with
    | @hit request entry found =>
        refine ⟨Nat.lt_succ_of_lt named, gone, ?_⟩
        intro membership
        simp only [State.called, State.observe, List.append_assoc, List.cons_append,
          List.nil_append, List.mem_append, List.mem_cons, reduceCtorEq,
          Observation.yielded.injEq, List.not_mem_nil, or_false, false_or] at membership
        rcases membership with earlier | ⟨same, _⟩
        · exact old earlier
        · exact absurd same.symm fresh
    | @missed request absent =>
        apply advance _ _ _ _ fresh
        refine ⟨Nat.lt_succ_of_lt named, gone, ?_⟩
        intro membership
        exact old (by simpa [State.called, State.observe] using membership)
    | @resumed walk delivery found =>
        have waiting := List.mem_of_find?_eq_some found
        apply advance _ _ _ _ (gone walk waiting)
        refine ⟨named, ?_, ?_⟩
        · intro other membership
          exact gone other (List.mem_filter.mp membership).1
        · intro membership
          exact old (by simpa [State.resumed, State.observe] using membership)
    | wrote iotlb walks calls trace =>
        refine ⟨calls ▸ named, walks ▸ gone, ?_⟩
        intro membership
        exact old (by simpa [trace] using membership)
    | fetched iotlb walks calls trace =>
        exact ⟨calls ▸ named, walks ▸ gone, trace ▸ old⟩
  exact good.2.2 yielded

/-! ## Isolation -/

variable {config : Config} {state : State} {request : Request}

/-- What a call for `request` may do: nothing beyond the table is translated, and a
hit returns what was stored for the same token, page and direction. -/
structure Isolated (config : Config) (state : State) (request : Request) : Prop where
  refused : entries ≤ request.token → ∀ later,
    Reaches (step config) always (state.translateToken config request) later →
    ∀ source physical, .yielded state.calls source true physical ∉ later.trace
  own : request.token < entries → ∀ entry, state.lookup request.cacheKey = some entry →
    ∃ filler, state.Stored entry filler ∧ filler.token = request.token ∧
      filler.page = request.page ∧ filler.write = request.write

/-- An entry that a call for an existing token stored under the key of `request`. -/
def State.Aliased (state : State) (request : Request) : Prop :=
  ∃ entry ∈ state.iotlb, ∃ filler, state.Stored entry filler ∧ filler.page = request.page ∧
    filler.token = request.token % entries ∧
    filler.write = (request.write || request.token.testBit 11)

theorem lookup_key {entry : Entry} {key : Nat} (found : state.lookup key = some entry) :
    entry ∈ state.iotlb ∧ entry.key = key := by
  have named := List.find?_some found
  exact ⟨List.mem_of_find?_eq_some found, by simpa using named⟩

/-- A call for a token beyond the table finds an entry exactly when a key is shared. -/
theorem lookup_isSome_iff (booked : state.Booked) :
    (state.lookup request.cacheKey).isSome = true ↔
      request.token.testBit 10 = false ∧ state.Aliased request := by
  constructor
  · intro hits
    obtain ⟨entry, found⟩ := Option.isSome_iff_exists.mp hits
    obtain ⟨membership, key⟩ := lookup_key found
    obtain ⟨filler, stored⟩ := booked.stored entry membership
    have same : request.cacheKey = filler.cacheKey := by rw [stored.key, key]
    obtain ⟨page, tenth, token, write⟩ := (request.cacheKey_eq_iff stored.small).mp same
    exact ⟨tenth, entry, membership, filler, stored, page.symm, token.symm, write.symm⟩
  · rintro ⟨tenth, entry, membership, filler, stored, page, token, write⟩
    have same : request.cacheKey = filler.cacheKey :=
      (request.cacheKey_eq_iff stored.small).mpr ⟨page.symm, tenth, token.symm, write.symm⟩
    apply List.find?_isSome.mpr
    exact ⟨entry, membership, by simpa [same] using stored.key.symm⟩

theorem State.translateToken_hit {entry : Entry}
    (found : state.lookup request.cacheKey = some entry) :
    .yielded state.calls entry.walk true (entry.value ||| (request.address &&& 0xfff)) ∈
      (state.translateToken config request).trace := by
  unfold State.translateToken
  rw [found]
  simp [State.observe]

theorem Isolated.own_of_booked (booked : state.Booked) (small : request.token < entries)
    {entry : Entry} (found : state.lookup request.cacheKey = some entry) :
    ∃ filler, state.Stored entry filler ∧ filler.token = request.token ∧
      filler.page = request.page ∧ filler.write = request.write := by
  obtain ⟨membership, key⟩ := lookup_key found
  obtain ⟨filler, stored⟩ := booked.stored entry membership
  have same : filler.cacheKey = request.cacheKey := by rw [stored.key, key]
  obtain ⟨token, page, write⟩ := filler.cacheKey_injective stored.small small same
  exact ⟨filler, stored, token, page, write⟩

/-- A call beyond the table that misses is over with a failure. -/
theorem Isolated.refused_of_missed (booked : state.Booked) (beyond : entries ≤ request.token)
    (missed : state.lookup request.cacheKey = none) {later : State}
    (reached : Reaches (step config) always (state.translateToken config request) later)
    (source physical : Nat) : .yielded state.calls source true physical ∉ later.trace := by
  have shape : state.translateToken config request =
      (state.called request).conclude config state.calls request false 0 := by
    unfold State.translateToken
    rw [missed, walkTables_beyond beyond]
    rfl
  rw [shape] at reached
  intro yielded
  have named : state.calls <
      ((state.called request).conclude config state.calls request false 0).calls := by
    simp [State.called, State.observe]
  have finished : ∀ walk ∈
      ((state.called request).conclude config state.calls request false 0).walks,
      walk.serial ≠ state.calls := by
    intro walk membership
    rw [State.conclude_walks] at membership
    exact Nat.ne_of_lt (booked.walk_lt walk membership)
  have now := yielded_of_over named finished reached yielded
  simp only [State.conclude_trace, State.called, State.observe, List.append_assoc,
    List.mem_append, List.mem_singleton, reduceCtorEq, Observation.yielded.injEq,
    Bool.true_eq_false, false_and, and_false, or_false] at now
  exact Nat.lt_irrefl _ (booked.yielded_lt _ _ _ _ now)

/-- A call is isolated unless its token lies beyond the table and shares its key with
an entry of an existing token. -/
theorem isolated_iff (reached : Reaches (step config) always .initial state)
    (request : Request) :
    Isolated config state request ↔
      request.token < entries ∨ request.token.testBit 10 = true ∨ ¬ state.Aliased request := by
  have booked : state.Booked := booked_of_reaches reached
  constructor
  · intro isolated
    by_contra outside
    push Not at outside
    obtain ⟨beyond, tenth, aliased⟩ := outside
    have hits : (state.lookup request.cacheKey).isSome = true :=
      (lookup_isSome_iff booked).mpr ⟨by simpa using tenth, aliased⟩
    obtain ⟨entry, found⟩ := Option.isSome_iff_exists.mp hits
    exact isolated.refused (by omega) _ .refl _ _ (State.translateToken_hit found)
  · intro condition
    refine ⟨?_, fun small entry found => Isolated.own_of_booked booked small found⟩
    intro beyond later continued source physical
    apply Isolated.refused_of_missed booked beyond _ continued
    -- a hit would share its key, which the condition excludes beyond the table
    cases found : state.lookup request.cacheKey with
    | none => rfl
    | some entry =>
        obtain ⟨tenth, aliased⟩ := (lookup_isSome_iff booked).mp (by rw [found]; rfl)
        rcases condition with small | set | free
        · exact absurd beyond (Nat.not_le_of_lt small)
        · simp [tenth] at set
        · exact absurd aliased free

/-! ## A remote token that aliases a local one -/

/-- A successful read of the given 64-bit words. -/
def Delivery.words (words : List Nat) : Delivery := ⟨true, words.flatMap Abi.store64⟩

/-- Token 0 maps its page 5 to the frame 9, without permission checks. -/
def tokenZeroFilled : List Event :=
  [.writeMmio (ummuOffset + 0x70) 8 0x1000,
    .translate ⟨0, 0x5000, false, by decide, by decide⟩,
    .tableRead 0 (.words [1, 0x2000, 0, 0, 0, 0, 0, 0]),
    .tableRead 0 (.words [1, 0, 0x3000, 0, 0, 0, 0, 0]),
    .tableRead 0 (.words [0x4003]), .tableRead 0 (.words [0x6003]),
    .tableRead 0 (.words [0x7003]), .tableRead 0 (.words [0x9003])]

theorem tokenZeroFilled_reached :
    ∃ state, Reaches (step ⟨4096⟩) always .initial state ∧
      (state.iotlb, state.lookup (Request.cacheKey ⟨4096, 0x5010, false, by decide, by decide⟩)) =
        ([⟨5, 0x9000, 0⟩], some ⟨5, 0x9000, 0⟩) :=
  exists_of_execute (show (execute (step ⟨4096⟩) always tokenZeroFilled .initial).map
    (fun state => (state.iotlb,
      state.lookup (Request.cacheKey ⟨4096, 0x5010, false, by decide, by decide⟩))) =
      some ([⟨5, 0x9000, 0⟩], some ⟨5, 0x9000, 0⟩) by decide +kernel)

theorem isolated_with_tenth_bit :
    ∃ state, Reaches (step ⟨4096⟩) always .initial state ∧ state.iotlb = [⟨5, 0x9000, 0⟩] ∧
      Isolated ⟨4096⟩ state ⟨1024, 0x5010, false, by decide, by decide⟩ := by
  obtain ⟨state, reached, seen⟩ := tokenZeroFilled_reached
  exact ⟨state, reached, (Prod.mk.inj seen).1,
    (isolated_iff reached _).mpr (.inr (.inl (by decide)))⟩

/-- Token 4096 is translated although no context exists for it. -/
theorem token_4096_translated :
    ∃ state, Reaches (step ⟨4096⟩) always .initial state ∧
      ¬ Isolated ⟨4096⟩ state ⟨4096, 0x5010, false, by decide, by decide⟩ := by
  obtain ⟨state, reached, seen⟩ := tokenZeroFilled_reached
  refine ⟨state, reached, ?_⟩
  intro isolated
  exact isolated.refused (by decide) _ .refl _ _ (State.translateToken_hit (Prod.mk.inj seen).2)

end Udma.Ummu
