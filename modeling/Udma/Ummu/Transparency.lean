import Udma.Ummu.Isolation
import Udma.Ummu.Permission

/-!
# Transparency of the IOTLB

With tables that do not change, a call that walks gives the fresh translation.  A
call that hits is answered without a permission check, from the check made for
another address of its page; it agrees with a fresh translation exactly as long as
no permission range divides a mapped page.
-/

namespace Udma.Ummu

open Transition (Script Reaches execute exists_of_execute)
open Abi (Bytes)

/-- Every table read is answered by `memory` and no register is written.  Without a
write there is no command fetch either. -/
def Fixed (memory : Memory) (before : State) (event : Event) (_after : State) : Prop :=
  match event with
  | .translate _ => True
  | .tableRead serial delivery =>
      ∀ walk ∈ before.walks, walk.serial = serial → delivery = memory walk.read
  | .writeMmio .. => False
  | .commandFetched .. => False

instance (memory : Memory) (before : State) (event : Event) (after : State) :
    Decidable (Fixed memory before event after) := by
  unfold Fixed
  rcases event with _ | _ <;> infer_instance

/-- Every call for an existing token yields the fresh translation. -/
def Transparent (memory : Memory) (tect : Nat) (state : State) : Prop :=
  ∀ serial source ok physical request, .called serial request ∈ state.trace →
    .yielded serial source ok physical ∈ state.trace → request.token < entries →
    (ok, physical) = fresh memory tect request

/-- The permission range that governs a mapped page covers all or none of it. -/
def PageUniform (memory : Memory) (tect : Nat) : Prop :=
  ∀ token < entries, ∀ page < 2 ^ 52, ∀ write context range,
    contextAt memory tect token = some context → TctEntry.maptEnabled context = true →
    maptRange memory context (page * 4096) write = some range →
    (frame memory context (page * 4096)).1 = true →
    (∀ offset < 4096, range.Covers (page * 4096 + offset)) ∨
      ∀ offset < 4096, ¬ range.Covers (page * 4096 + offset)

variable {config : Config} {memory : Memory} {registers : Registers} {request filler : Request}

/-! ## One page -/

theorem Request.address_split (request : Request) :
    request.page < 2 ^ 52 ∧ request.address % 4096 < 4096 ∧
      request.page * 4096 + request.address % 4096 = request.address ∧
      (request.page * 4096) >>> 12 = request.address >>> 12 := by
  refine ⟨request.page_lt, Nat.mod_lt _ (by decide), ?_, ?_⟩
  · rw [page, Nat.shiftRight_eq_div_pow]
    omega
  · rw [page, Nat.shiftRight_eq_div_pow, Nat.shiftRight_eq_div_pow]
    omega

/-- In a uniform page, the result for one address is that for the others. -/
theorem fresh_congr {tect : Nat} (uniform : PageUniform memory tect)
    (small : request.token < entries) (token : filler.token = request.token)
    (page : filler.page = request.page) (write : filler.write = request.write) {physical : Nat}
    (filled : fresh memory tect filler = (true, physical)) :
    fresh memory tect request =
      (true, (physical >>> 12 <<< 12) ||| (request.address &&& 0xfff)) := by
  have fillerSmall : filler.token < entries := token ▸ small
  obtain ⟨context, found, permitted, mapped⟩ :=
    (fresh_succeeds_iff fillerSmall).mp (by rw [filled])
  have physicalFrame : frame memory context filler.address = (true, physical) := by
    rw [← fresh_of_permitted fillerSmall found permitted, filled]
  have samePage : filler.address >>> 12 = request.address >>> 12 := page
  have allowed : Permitted memory context request.address request.write := by
    rcases permitted with disabled | ⟨range, governs, covers⟩
    · exact .inl disabled
    · by_cases enabled : TctEntry.maptEnabled context = true
      · right
        obtain ⟨bound, offset, split, start⟩ := filler.address_split
        obtain ⟨_, otherOffset, otherSplit, otherStart⟩ := request.address_split
        have atPage : maptRange memory context (filler.page * 4096) filler.write = some range := by
          rw [maptRange_congr start]
          exact governs
        have mappedPage : (frame memory context (filler.page * 4096)).1 = true := by
          rw [frame_congr start.symm memory context mapped]
        have whole := (uniform _ fillerSmall _ bound _ _ _ found enabled atPage
          mappedPage).resolve_right fun outside => outside _ offset (by rwa [split])
        refine ⟨range, ?_, ?_⟩
        · rw [← maptRange_congr samePage, ← write]
          exact governs
        · have inside := whole _ otherOffset
          rwa [page, otherSplit] at inside
      · exact .inl (by simpa using enabled)
  rw [fresh_of_permitted small (token ▸ found) allowed, frame_congr samePage memory context mapped,
    physicalFrame]

/-! ## Runs -/

/-- What holds along a run with fixed tables. -/
structure Consistent (config : Config) (memory : Memory) (tect : Nat) (state : State) :
    Prop where
  booked : state.Booked
  base : state.registers.tect = tect
  walks : ∀ walk ∈ state.walks,
    (walk.resume (memory walk.read)).answer memory = fresh memory tect walk.request
  entries : ∀ entry ∈ state.iotlb, config.iotlbEntries ≠ 0 ∧ ∃ filler physical,
    state.Stored entry filler ∧ fresh memory tect filler = (true, physical) ∧
      entry.value = (physical >>> 12) <<< 12
  transparent : Transparent memory tect state

namespace Consistent

variable {tect serial : Nat} {before after : State}

/-- A call without a result. -/
theorem called (consistent : Consistent config memory tect before) (request : Request) :
    Consistent config memory tect (before.called request) where
  booked := consistent.booked.called request
  base := consistent.base
  walks := consistent.walks
  entries := by
    intro entry membership
    obtain ⟨enabled, filler, physical, stored, filled⟩ := consistent.entries entry membership
    exact ⟨enabled, filler, physical, stored.mono fun _ => List.mem_append_left _, filled⟩
  transparent := by
    intro serial source ok physical other known yielded small
    have old : .yielded serial source ok physical ∈ before.trace := by
      simpa [State.called, State.observe] using yielded
    have named := consistent.booked.yielded_lt _ _ _ _ old
    rcases List.mem_append.mp known with earlier | new
    · exact consistent.transparent _ _ _ _ _ earlier old small
    · simp only [List.mem_singleton, Observation.called.injEq] at new
      exact absurd named (new.1 ▸ Nat.lt_irrefl _)

theorem resumed (consistent : Consistent config memory tect before) {walk : Walk}
    (waiting : walk ∈ before.walks) :
    Consistent config memory tect (before.resumed walk.serial) where
  booked := consistent.booked.resumed waiting
  base := consistent.base
  walks other membership := consistent.walks other (List.mem_filter.mp membership).1
  entries := by
    intro entry membership
    obtain ⟨enabled, filler, physical, stored, filled⟩ := consistent.entries entry membership
    exact ⟨enabled, filler, physical, stored.mono fun _ => List.mem_append_left _, filled⟩
  transparent := by
    intro serial source ok physical other known yielded small
    simp only [State.resumed, State.observe, List.mem_append, List.mem_singleton, reduceCtorEq,
      or_false] at known yielded
    exact consistent.transparent _ _ _ _ _ known yielded small

/-- A result that is the fresh translation. -/
theorem transparent_append {state : State} {source physical : Nat} {ok : Bool}
    (consistent : Consistent config memory tect state)
    (known : .called serial request ∈ state.trace)
    (result : request.token < Ummu.entries → (ok, physical) = fresh memory tect request)
    {after : State} (trace : after.trace = state.trace ++ [.yielded serial source ok physical]) :
    Transparent memory tect after := by
  intro other otherSource otherOk otherPhysical otherRequest otherKnown yielded small
  rw [trace] at otherKnown yielded
  have earlier : .called other otherRequest ∈ state.trace := by simpa using otherKnown
  rcases List.mem_append.mp yielded with old | new
  · exact consistent.transparent _ _ _ _ _ earlier old small
  · simp only [List.mem_singleton, Observation.yielded.injEq] at new
    obtain ⟨rfl, rfl, rfl, rfl⟩ := new
    obtain rfl := consistent.booked.called_once _ _ _ known earlier
    exact result small

theorem advance (consistent : Consistent config memory tect before) {script : TableScript}
    (known : .called serial request ∈ before.trace)
    (small : ∀ read resume, script = .ask read resume → request.token < Ummu.entries)
    (succeeds : ∀ physical, script = .done (true, physical) → request.token < Ummu.entries)
    (result : script.answer memory = fresh memory tect request) :
    Consistent config memory tect (before.advance config serial request script) := by
  have booked : (before.advance config serial request script).Booked :=
    consistent.booked.advance known small succeeds
  cases script with
  | done outcome =>
      obtain ⟨ok, physical⟩ := outcome
      refine ⟨booked, ?_, ?_, ?_, ?_⟩
      · rw [← consistent.base]
        unfold State.advance State.conclude
        dsimp only
        split <;> rfl
      · simpa [State.advance] using consistent.walks
      · intro entry membership
        rcases State.mem_conclude membership with ⟨rfl, enabled, rfl⟩ | old
        · refine ⟨enabled, request, physical, ⟨?_, rfl, succeeds physical rfl, physical, ?_, rfl⟩,
            result.symm, rfl⟩
          · simpa [State.advance] using known
          · simp [State.advance]
        · obtain ⟨enabled, filler, stored, rest⟩ := consistent.entries entry old
          refine ⟨enabled, filler, stored, rest.1.mono ?_, rest.2⟩
          intro observation earlier
          simp [State.advance, earlier]
      · exact consistent.transparent_append known (fun _ => result)
          (State.conclude_trace ok physical)
  | ask read resume =>
      refine ⟨booked, consistent.base, ?_, ?_, consistent.transparent⟩
      · intro walk membership
        rcases List.mem_append.mp membership with old | new
        · exact consistent.walks walk old
        · obtain rfl := List.mem_singleton.mp new
          exact result
      · intro entry membership
        obtain ⟨enabled, filler, stored, rest⟩ := consistent.entries entry membership
        exact ⟨enabled, filler, stored, rest.1.mono fun _ => id, rest.2⟩

/-- A hit in a uniform page. -/
theorem hit (consistent : Consistent config memory tect before)
    (uniform : config.iotlbEntries = 0 ∨ PageUniform memory tect) {entry : Entry}
    (found : before.lookup request.cacheKey = some entry) :
    Consistent config memory tect ((before.called request).observe
      (.yielded before.calls entry.walk true
        (entry.value ||| (request.address &&& 0xfff)))) := by
  have after := consistent.called request
  obtain ⟨membership, key⟩ := lookup_key found
  refine ⟨?_, after.base, after.walks, ?_, ?_⟩
  · apply after.booked.observe
    · intro _ _ same
      cases same
    · intro _ same
      cases same
    · rintro _ _ _ _ ⟨⟩
      exact Nat.lt_succ_self _
  · intro other membership
    obtain ⟨enabled, filler, physical, stored, filled⟩ := after.entries other membership
    exact ⟨enabled, filler, physical, stored.mono fun _ => List.mem_append_left _, filled⟩
  · refine after.transparent_append (List.mem_append_right _ (List.mem_singleton_self _)) ?_ rfl
    intro small
    obtain ⟨enabled, filler, physical, stored, filled, value⟩ :=
      consistent.entries entry membership
    have same : filler.cacheKey = request.cacheKey := by rw [stored.key, key]
    obtain ⟨token, page, write⟩ := filler.cacheKey_injective stored.small small same
    rw [fresh_congr (uniform.resolve_left enabled) small token page write filled, value]

end Consistent

theorem Moved.consistent {tect : Nat} {before after : State} {event : Event}
    (moved : Moved config before event after)
    (consistent : Consistent config memory tect before)
    (uniform : config.iotlbEntries = 0 ∨ PageUniform memory tect)
    (fixed : Fixed memory before event after) : Consistent config memory tect after := by
  cases moved with
  | hit found => exact consistent.hit uniform found
  | @missed request absent =>
      apply (consistent.called request).advance
      · exact List.mem_append_right _ (List.mem_singleton_self _)
      · intro read resume asks
        exact token_lt_of_walkTables asks
      · intro physical same
        exact absurd same (walkTables_ne_done _ _ _)
      · rw [consistent.base]
        rfl
  | @resumed walk delivery found =>
      have waiting := List.mem_of_find?_eq_some found
      obtain ⟨called, small⟩ := consistent.booked.walk_called walk waiting
      obtain rfl : delivery = memory walk.read := fixed walk waiting rfl
      apply (consistent.resumed waiting).advance
      · exact List.mem_append_left _ called
      · exact fun _ _ _ => small
      · exact fun _ _ => small
      · exact consistent.walks walk waiting
  | wrote iotlb walks calls trace => cases fixed
  | fetched iotlb walks calls trace => cases fixed

theorem transparent_of_uniform {state : State}
    (uniform : config.iotlbEntries = 0 ∨ PageUniform memory registers.tect)
    (reached : Reaches (step config) (Fixed memory) (.configured registers) state) :
    Transparent memory registers.tect state := by
  have consistent : Consistent config memory registers.tect state := by
    apply reached.invariant
    · refine ⟨State.booked_configured registers, rfl, ?_, ?_, ?_⟩
      · simp [State.configured]
      · simp [State.configured]
      · intro serial source ok physical request known
        simp [State.configured] at known
    · intro before event after consistent taken fixed
      exact (step_moved taken).consistent consistent uniform fixed
  exact consistent.transparent

/-! ## Divided pages -/

/-- A walk that would succeed can be driven to its end, where it is stored. -/
theorem stored_of_answer (enabled : config.iotlbEntries ≠ 0) {script : TableScript}
    {physical serial : Nat} (result : script.answer memory = (true, physical)) (state : State)
    (idle : state.walks = []) :
    ∃ later, Reaches (step config) (Fixed memory)
        (state.advance config serial request script) later ∧
      later.lookup request.cacheKey =
        some ⟨request.cacheKey, (physical >>> 12) <<< 12, serial⟩ := by
  induction script generalizing state with
  | done outcome =>
      obtain rfl : outcome = (true, physical) := result
      refine ⟨_, .refl, ?_⟩
      simp [State.advance, State.conclude, enabled, State.fill, State.observe, State.lookup]
  | ask read resume inductionHypothesis =>
      have alone : (state.advance config serial request (.ask read resume)).walks =
          [⟨serial, request, read, resume⟩] := by
        simp [State.advance, idle]
      have taken : step config (state.advance config serial request (.ask read resume))
          (.tableRead serial (memory read)) =
          some ((state.advance config serial request (.ask read resume)).tableRead config
            ⟨serial, request, read, resume⟩ (memory read)) := by
        simp [step, alone]
      have fixed : Fixed memory (state.advance config serial request (.ask read resume))
          (.tableRead serial (memory read))
          ((state.advance config serial request (.ask read resume)).tableRead config
            ⟨serial, request, read, resume⟩ (memory read)) := by
        intro walk waiting _
        rw [alone] at waiting
        obtain rfl := List.mem_singleton.mp waiting
        rfl
      obtain ⟨later, onward, found⟩ := inductionHypothesis (memory read) result
        ((state.advance config serial request (.ask read resume)).resumed serial)
        (by simp [State.resumed, State.observe, alone])
      exact ⟨later, (Reaches.tail .refl taken fixed).trans onward, found⟩

theorem Request.cacheKey_congr (token : request.token = filler.token)
    (page : request.page = filler.page) (write : request.write = filler.write) :
    request.cacheKey = filler.cacheKey := by
  have shifted : request.address >>> 12 = filler.address >>> 12 := page
  unfold cacheKey
  rw [token, write, shifted]

/-- Once an address of a page is cached, an address of it that is not granted is
translated all the same. -/
theorem not_transparent_of_divided (enabled : config.iotlbEntries ≠ 0)
    (small : request.token < entries) (token : request.token = filler.token)
    (page : request.page = filler.page) (write : request.write = filler.write) {physical : Nat}
    (filled : fresh memory registers.tect filler = (true, physical))
    (refused : (fresh memory registers.tect request).1 = false) :
    ∃ state, Reaches (step config) (Fixed memory) (.configured registers) state ∧
      ¬ Transparent memory registers.tect state := by
  have first : Reaches (step config) (Fixed memory) (.configured registers)
      (((State.configured registers).called filler).advance config 0 filler
        (walkTables registers.tect filler)) := by
    have taken : step config (.configured registers) (.translate filler) =
        some (((State.configured registers).called filler).advance config 0 filler
          (walkTables registers.tect filler)) := rfl
    exact .tail .refl taken trivial
  obtain ⟨state, driven, found⟩ := stored_of_answer enabled filled
    ((State.configured registers).called filler) rfl
  rw [← Request.cacheKey_congr token page write] at found
  have taken : step config state (.translate request) =
      some (state.translateToken config request) := rfl
  refine ⟨state.translateToken config request,
    (first.trans driven).tail taken trivial, ?_⟩
  intro transparent
  have called : .called state.calls request ∈ (state.translateToken config request).trace := by
    unfold State.translateToken
    rw [found]
    simp [State.observe]
  have yielded := transparent _ _ _ _ _ called (State.translateToken_hit found) small
  rw [← yielded] at refused
  cases refused

/-- Two addresses of a mapped page on either side of a bound of the range that governs it. -/
theorem fresh_of_divided {tect start : Nat} {context : Bytes} {range : Range}
    (small : request.token < entries) (token : request.token = filler.token)
    (write : request.write = filler.write) (inner : filler.address >>> 12 = start >>> 12)
    (outer : request.address >>> 12 = start >>> 12)
    (found : contextAt memory tect filler.token = some context)
    (checked : TctEntry.maptEnabled context = true)
    (governs : maptRange memory context start filler.write = some range)
    (mapped : (frame memory context start).1 = true) (covers : range.Covers filler.address)
    (misses : ¬ range.Covers request.address) :
    (fresh memory tect filler).1 = true ∧ (fresh memory tect request).1 = false := by
  constructor
  · have granted : Permitted memory context filler.address filler.write := by
      refine .inr ⟨range, ?_, covers⟩
      rw [maptRange_congr inner]
      exact governs
    rw [fresh_of_permitted (token ▸ small) found granted,
      frame_congr inner.symm memory context mapped]
  · rw [← Bool.not_eq_true, fresh_succeeds_iff small]
    rintro ⟨other, same, permitted, _⟩
    rw [token, found] at same
    obtain rfl := Option.some.inj same
    rcases permitted with disabled | ⟨otherRange, otherGoverns, inside⟩
    · rw [checked] at disabled
      cases disabled
    · rw [maptRange_congr outer, write, governs] at otherGoverns
      obtain rfl := Option.some.inj otherGoverns
      exact misses inside

/-- The addresses of a page. -/
theorem page_offset {page offset : Nat} (bound : page < 2 ^ 52) (low : offset < 4096) :
    page * 4096 + offset < 2 ^ 64 ∧ (page * 4096 + offset) >>> 12 = (page * 4096) >>> 12 := by
  rw [Nat.shiftRight_eq_div_pow, Nat.shiftRight_eq_div_pow]
  omega

/-- The IOTLB is transparent in every run exactly when no permission range divides a
mapped page, or when it is disabled. -/
theorem transparent_iff (config : Config) (memory : Memory) (registers : Registers) :
    (∀ state, Reaches (step config) (Fixed memory) (.configured registers) state →
      Transparent memory registers.tect state) ↔
      config.iotlbEntries = 0 ∨ PageUniform memory registers.tect := by
  constructor
  · intro transparent
    by_contra outside
    push Not at outside
    obtain ⟨enabled, divided⟩ := outside
    unfold PageUniform at divided
    push Not at divided
    obtain ⟨token, small, page, bound, write, context, range, found, checked, governs, mapped,
      ⟨outer, outerLow, misses⟩, inner, innerLow, covers⟩ := divided
    obtain ⟨innerBound, innerPage⟩ := page_offset bound innerLow
    obtain ⟨outerBound, outerPage⟩ := page_offset bound outerLow
    generalize page * 4096 + inner = inside at *
    generalize page * 4096 + outer = beyond at *
    generalize page * 4096 = start at *
    have narrow : token < 2 ^ 32 := Nat.lt_trans small (by decide)
    have requestAt : ∀ address < 2 ^ 64, ∃ request : Request, request.token = token ∧
        request.address = address ∧ request.write = write :=
      fun address wide => ⟨⟨token, address, write, narrow, wide⟩, rfl, rfl, rfl⟩
    obtain ⟨filler, rfl, rfl, rfl⟩ := requestAt inside innerBound
    obtain ⟨request, sameToken, rfl, sameWrite⟩ := requestAt beyond outerBound
    obtain ⟨filled, refused⟩ := fresh_of_divided (sameToken ▸ small) sameToken sameWrite innerPage
      outerPage found checked governs mapped covers misses
    have samePage : request.page = filler.page := outerPage.trans innerPage.symm
    obtain ⟨state, reached, differs⟩ := not_transparent_of_divided enabled (sameToken ▸ small)
      sameToken samePage sameWrite (Prod.ext filled rfl) refused
    exact differs (transparent state reached)
  · intro uniform state reached
    exact transparent_of_uniform uniform reached

/-! ## A range of 256 bytes -/

/-- Token 0 is granted the first 256 bytes of its page 5, which is mapped to frame 9. -/
def narrowRange : Memory
  | ⟨0x1000, _⟩ => .words [1, 0x2000, 0, 0, 0, 0, 0, 0]
  | ⟨0x2000, _⟩ => .words [1 ||| (1 <<< 19), 0, 0x3000, 0xb000, 0, 0, 0, 0]
  | ⟨0xb000, _⟩ => .words [1 ||| (3 <<< 4), 0x5000, 0x50ff, 0]
  | ⟨0x3000, _⟩ => .words [0x4003]
  | ⟨0x4000, _⟩ => .words [0x6003]
  | ⟨0x6000, _⟩ => .words [0x7003]
  | ⟨0x7028, _⟩ => .words [0x9003]
  | _ => ⟨false, []⟩

/-- The second call is refused by a walk, and answered by the IOTLB. -/
theorem cached_page_skips_permission :
    ∃ state, Reaches (step ⟨4096⟩) (Fixed narrowRange)
        (.configured (Registers.initial.store 0x70 8 0x1000)) state ∧
      ¬ Transparent narrowRange (Registers.initial.store 0x70 8 0x1000).tect state := by
  let filler : Request := ⟨0, 0x5000, false, by decide, by decide⟩
  let outside : Request := ⟨0, 0x5200, false, by decide, by decide⟩
  let events : List Event := [.translate filler] ++
    ([⟨0x1000, 64⟩, ⟨0x2000, 64⟩, ⟨0xb000, 32⟩, ⟨0x3000, 8⟩, ⟨0x4000, 8⟩, ⟨0x6000, 8⟩,
      ⟨0x7028, 8⟩] : List DmaRead).map (fun read => .tableRead 0 (narrowRange read)) ++
    [.translate outside]
  obtain ⟨state, reached, seen⟩ := exists_of_execute
    (show (execute (step ⟨4096⟩) (Fixed narrowRange) events
        (.configured (Registers.initial.store 0x70 8 0x1000))).map
      (fun state => (decide (.called 1 outside ∈ state.trace),
        decide (.yielded 1 0 true 0x9200 ∈ state.trace))) = some (true, true) by
      decide +kernel)
  refine ⟨state, reached, ?_⟩
  intro transparent
  have result := transparent 1 0 true 0x9200 outside (of_decide_eq_true (Prod.mk.inj seen).1)
    (of_decide_eq_true (Prod.mk.inj seen).2) (by decide)
  exact absurd result (by decide +kernel)

end Udma.Ummu
