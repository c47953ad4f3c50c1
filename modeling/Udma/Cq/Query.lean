import Udma.Cq.Account
import Udma.Cq.Numbering

/-!
# What the query of a JFC says

The image that `BuildJfcQueryContext` makes shows `pi` and `wr_cqe_idx`; between them should lie
the CQE slots whose write has not ended, and below them only CQEs that the guest can see.  A
`Watch` keeps the outcomes of the writes, which the engine forgets, and what the JFC installed
last has counted.
-/

namespace Udma.Cq

open Udma.Abi Udma.Arithmetic Udma.Collections Udma.Transition

/-- The CQE writes of one JFC number that have ended, with their outcomes, and the generation
and the producer of the JFC installed last. -/
structure Watch where
  ended : List (Nat × Bool)
  latest : Option (Nat × Nat)
  deriving DecidableEq, Repr

namespace Watch

def start : Watch := ⟨[], none⟩

def next (watch : Watch) (ending : Option (Nat × Bool)) (tally : Option Tally) : Watch where
  ended := watch.ended ++ ending.toList
  latest := (tally.map fun tally => (tally.generation, tally.producer)).or watch.latest

def record (id : Nat) (before : State) (event : Event) (after : State) (watch : Watch) : Watch :=
  watch.next (before.ending id event) (after.tally id)

/-- No CQE write of the JFC installed last has failed. -/
def Clean (watch : Watch) (slots : List Slot) : Prop :=
  ∀ generation count, watch.latest = some (generation, count) →
    ∀ slot ∈ slots, slot.generation = generation → (slot.call, false) ∉ watch.ended

end Watch

/-- The machine with the CQE writes of JFC `id` watched. -/
def watching (config : Config) (id : Nat) : State × Watch → Event → Option (State × Watch) :=
  recorded (step config) (Watch.record id)

/-- The CQE at `index` of the JFC is in the memory of the guest. -/
def Visible (slots : List Slot) (watch : Watch) (generation index : Nat) : Prop :=
  ∃ slot ∈ slots, slot.generation = generation ∧ slot.producer = index ∧
    (slot.call, true) ∈ watch.ended

/-- What a guest that polls the image relies on. -/
structure Consistent (image : Bytes) (account : Account) (watch : Watch) : Prop where
  reserved : shownPi image % 2 ^ 22 = (shownWr image + account.writing.length) % 2 ^ 22
  counted : ∀ generation count, watch.latest = some (generation, count) →
    shownWr image = count % 2 ^ 22
  visible : ∀ generation count, watch.latest = some (generation, count) →
    ∀ index < count, Visible account.slots watch generation index

/-! ## The writes and the context -/

/-- The context of a JFC keeps up with its CQE writes; one that is gone has left its image. -/
structure Tracked (pipelined : Bool) (account : Account) (watch : Watch) : Prop where
  latest : ∀ tally, account.tally = some tally →
    watch.latest = some (tally.generation, tally.producer)
  absent : account.tally = none → account.writing = []
  given : ∀ call ∈ watch.ended.map Prod.fst ++ account.writing.map Publication.call,
    call ∈ account.slots.map Slot.call
  once : (watch.ended.map Prod.fst ++ account.writing.map Publication.call).Nodup
  pending : pipelined = false → ∀ tally, account.tally = some tally →
    tally.writePending = !account.writing.isEmpty
  sized : ∀ image, account.image = some image → image.length = 128
  imaged : account.tally ≠ none → account.image ≠ none
  left : account.tally = none → ∀ image, account.image = some image →
    ∃ generation count, watch.latest = some (generation, count) ∧
      shownPi image = count % 2 ^ 22 ∧ shownWr image = count % 2 ^ 22

/-- In serial mode the context counts the CQEs whose write has ended well. -/
structure SerialCount (account : Account) (watch : Watch) : Prop where
  visible : ∀ generation count, watch.latest = some (generation, count) →
    ∀ index < count, Visible account.slots watch generation index
  held : ∀ publication ∈ account.writing, ∀ tally, account.tally = some tally →
    ∃ slot ∈ account.slots, slot.call = publication.call ∧
      slot.generation = tally.generation ∧ slot.producer = tally.producer

/-- In pipelined mode the context counts the CQEs whose write has begun. -/
structure PipelinedCount (account : Account) (watch : Watch) : Prop where
  covered : ∀ generation count, watch.latest = some (generation, count) → ∀ index < count,
    ∃ slot ∈ account.slots, slot.generation = generation ∧ slot.producer = index ∧
      slot.call ∈ watch.ended.map Prod.fst ++ account.writing.map Publication.call
  behind : ∀ generation count, watch.latest = some (generation, count) →
    ∀ slot ∈ account.slots, slot.generation = generation → slot.producer < count

section Moves

variable {pipelined : Bool} {before after : Account} {watch : Watch}
  {ending : Option (Nat × Bool)} {tally : Tally}

theorem Watch.next_numbers {generation count : Nat}
    (latest : (watch.next ending (some tally)).latest = some (generation, count)) :
    tally.generation = generation ∧ tally.producer = count :=
  Prod.mk.inj (Option.some.inj latest)

theorem Watch.next_none (watch : Watch) : watch.next none none = watch := by
  simp [Watch.next]

theorem Tracked.next_same (tracked : Tracked pipelined before watch) :
    watch.next none before.tally = watch := by
  cases found : before.tally with
  | none => exact watch.next_none
  | some tally =>
      have latest := tracked.latest tally found
      rw [Watch.next, Option.toList_none, List.append_nil, Option.map_some, Option.some_or,
        ← latest]

theorem Visible.mono {slots later : List Slot} {watch ahead : Watch} {generation index : Nat}
    (visible : Visible slots watch generation index) (slotsKept : slots ⊆ later)
    (endedKept : watch.ended ⊆ ahead.ended) : Visible later ahead generation index := by
  obtain ⟨slot, held, dated, placed, landed⟩ := visible
  exact ⟨slot, slotsKept held, dated, placed, endedKept landed⟩

/-- A CQE write goes from those in the hands of the host to those that have ended. -/
theorem ended_perm (ended : List (Nat × Bool)) (earlier later : List Publication)
    (publication : Publication) (ok : Bool) :
    ((ended ++ [(publication.call, ok)]).map Prod.fst ++
        (earlier ++ later).map Publication.call).Perm
      (ended.map Prod.fst ++ (earlier ++ publication :: later).map Publication.call) := by
  simp only [List.map_append, List.map_cons, List.map_nil, List.append_assoc,
    List.singleton_append]
  exact List.Perm.append_left _ List.perm_middle.symm

theorem Tracked.move (tracked : Tracked pipelined before watch)
    (moved : Account.Move pipelined before ending after)
    (single : pipelined = false → before.writing.length ≤ 1)
    (distinct : (after.slots.map Slot.call).Nodup) :
    Tracked pipelined after (watch.next ending after.tally) := by
  cases moved with
  | kept => rwa [tracked.next_same]
  | reserved old publication slot found call generation producer =>
      have order : (watch.ended.map Prod.fst ++
          (before.writing ++ [publication]).map Publication.call) =
          (watch.ended.map Prod.fst ++ before.writing.map Publication.call) ++
            [publication.call] := by simp
      simp only [List.map_append, List.map_cons, List.map_nil] at distinct
      have new := (List.nodup_append.mp distinct).2.2
      refine ⟨fun tally same => ?_, by simp, ?_, ?_, fun serial tally same => ?_, tracked.sized,
        fun _ => tracked.imaged (by simp [found]), by simp⟩
      · obtain rfl := Option.some.inj same
        rfl
      · intro other listed
        simp only [Watch.next, Option.toList_none, List.append_nil] at listed
        rw [order, List.mem_append, List.mem_singleton] at listed
        rw [List.map_append, List.mem_append]
        rcases listed with earlier | rfl
        · exact .inl (tracked.given other earlier)
        · exact .inr (by simp [call])
      · simp only [Watch.next, Option.toList_none, List.append_nil]
        rw [order]
        refine List.nodup_append.mpr ⟨tracked.once, List.nodup_singleton _, ?_⟩
        intro one listed other same
        rw [List.mem_singleton.mp same, ← call]
        exact new one (tracked.given one listed) slot.call (List.mem_singleton_self _)
      · obtain rfl := Option.some.inj same
        simp
  | ended old publication earlier later ok pending shape found settled =>
      have order := ended_perm watch.ended earlier later publication ok
      rw [← shape] at order
      refine ⟨fun tally same => ?_, by simp, ?_, ?_, fun serial tally same => ?_, tracked.sized,
        fun _ => tracked.imaged (by simp [found]), by simp⟩
      · obtain rfl := Option.some.inj same
        rfl
      · exact fun other listed => tracked.given other (order.mem_iff.mp listed)
      · exact order.nodup_iff.mpr tracked.once
      · obtain rfl := Option.some.inj same
        have one := single serial
        rw [shape, List.length_append, List.length_cons] at one
        obtain rfl : earlier = [] := List.length_eq_zero_iff.mp (by omega)
        obtain rfl : later = [] := List.length_eq_zero_iff.mp (by omega)
        simp [settled serial]
  | erased image idle shown kept =>
      have gone : watch.next none none = watch := watch.next_none
      cases found : before.tally with
      | none =>
          have same : ({ before with tally := none, image := image } : Account) = before :=
            Account.ext found.symm (kept found) rfl rfl
          rw [gone, same]
          exact tracked
      | some tally =>
          obtain ⟨old, present⟩ := Option.ne_none_iff_exists'.mp
            (tracked.imaged (by simp [found]))
          obtain ⟨new, rfl, builds⟩ := shown tally found old present (tracked.sized old present)
          have idlePending : (!pipelined && tally.writePending) = false := by
            cases pipelined with
            | true => rfl
            | false => simp [tracked.pending rfl tally found, idle]
          rw [gone]
          refine ⟨by simp, fun _ => idle, tracked.given, tracked.once, by simp, ?_, by simp, ?_⟩
          · intro image same
            obtain rfl := Option.some.inj same
            exact builds.size
          · intro _ image same
            obtain rfl := Option.some.inj same
            refine ⟨tally.generation, tally.producer, tracked.latest tally found, ?_, builds.wr⟩
            rw [builds.pi, idlePending]
            rfl
  | created generation image size vacant idle fresh =>
      refine ⟨fun tally same => ?_, by simp, ?_, ?_, fun _ tally same => ?_, ?_, by simp, by simp⟩
      · obtain rfl := Option.some.inj same
        rfl
      · simpa [Watch.next] using tracked.given
      · simpa [Watch.next] using tracked.once
      · obtain rfl := Option.some.inj same
        simp [idle]
      · intro new same
        obtain rfl := Option.some.inj same
        exact size

theorem SerialCount.move (count : SerialCount before watch) (tracked : Tracked false before watch)
    (moved : Account.Move false before ending after) (single : before.writing.length ≤ 1) :
    SerialCount after (watch.next ending after.tally) := by
  cases moved with
  | kept => rwa [tracked.next_same]
  | reserved old publication slot found call generation producer =>
      have same : watch.next none (some { old with writePending := true }) = watch := by
        have latest := tracked.latest old found
        rw [Watch.next, Option.toList_none, List.append_nil, Option.map_some, Option.some_or,
          ← latest]
      refine ⟨?_, ?_⟩
      · intro generation total latest index below
        have latest : (watch.next none (some { old with writePending := true })).latest =
            some (generation, total) := latest
        rw [same] at latest
        have visible := count.visible generation total latest index below
        exact visible.mono (List.subset_append_left _ _) (List.subset_append_left _ _)
      · intro other listed tally context
        obtain rfl := Option.some.inj context
        rcases List.mem_append.mp listed with earlier | new
        · obtain ⟨given, held, named, dated, placed⟩ := count.held other earlier old found
          exact ⟨given, List.mem_append_left _ held, named, dated, placed⟩
        · obtain rfl := List.mem_singleton.mp new
          exact ⟨slot, List.mem_append_right _ (List.mem_singleton_self _), call, generation,
            producer⟩
  | ended old publication earlier later ok pending shape found settled =>
      have own := count.held publication (by simp [shape]) old found
      obtain ⟨slot, held, call, dated, placed⟩ := own
      refine ⟨?_, ?_⟩
      · intro generation total latest index below
        obtain ⟨rfl, rfl⟩ := Watch.next_numbers latest
        have earlierVisible (inside : index < old.producer) :
            Visible before.slots (watch.next (some (publication.call, ok)) none)
              old.generation index :=
          (count.visible _ _ (tracked.latest old found) index inside).mono (List.Subset.refl _)
            (List.subset_append_left _ _)
        cases ok with
        | false => exact earlierVisible below
        | true =>
            by_cases inside : index < old.producer
            · exact earlierVisible inside
            · have last : index = old.producer := by
                simp only [Bool.not_false, Bool.and_self, if_true] at below
                omega
              refine ⟨slot, held, dated, placed.trans last.symm, ?_⟩
              rw [call]
              exact List.mem_append_right _ (List.mem_singleton_self _)
      · intro other listed
        rw [shape, List.length_append, List.length_cons] at single
        obtain rfl : earlier = [] := List.length_eq_zero_iff.mp (by omega)
        obtain rfl : later = [] := List.length_eq_zero_iff.mp (by omega)
        simp at listed
  | erased image idle shown kept =>
      rw [watch.next_none]
      exact ⟨count.visible, by simp [idle]⟩
  | created generation image size vacant idle fresh =>
      refine ⟨?_, by simp [idle]⟩
      intro dated total latest index below
      obtain ⟨_, rfl⟩ := Watch.next_numbers latest
      simp at below

/-- The calls that are known after a step. -/
theorem known_mono (moved : Account.Move true before ending after) {call : Nat}
    (known : call ∈ watch.ended.map Prod.fst ++ before.writing.map Publication.call) :
    call ∈ (watch.next ending after.tally).ended.map Prod.fst ++
      after.writing.map Publication.call := by
  cases moved with
  | ended old publication earlier later ok pending shape found settled =>
      rw [shape] at known
      exact (ended_perm watch.ended earlier later publication ok).mem_iff.mpr known
  | reserved =>
      simp only [Watch.next, Option.toList_none, List.append_nil, List.map_append,
        List.mem_append] at known ⊢
      tauto
  | _ => simpa [Watch.next] using known

theorem PipelinedCount.move (count : PipelinedCount before watch)
    (tracked : Tracked true before watch) (moved : Account.Move true before ending after) :
    PipelinedCount after (watch.next ending after.tally) := by
  have known (call : Nat) (told : call ∈ watch.ended.map Prod.fst ++
      before.writing.map Publication.call) := known_mono moved told
  cases moved with
  | kept => rwa [tracked.next_same]
  | reserved old publication slot found call generation producer =>
      have latest := tracked.latest old found
      refine ⟨?_, ?_⟩
      · intro dated total same index below
        obtain ⟨rfl, rfl⟩ := Watch.next_numbers same
        by_cases inside : index < old.producer
        · obtain ⟨given, held, dated, placed, told⟩ :=
            count.covered old.generation old.producer latest index inside
          exact ⟨given, List.mem_append_left _ held, dated, placed, known _ told⟩
        · have last : slot.producer = index := by
            simp only [if_true] at below
            omega
          refine ⟨slot, List.mem_append_right _ (List.mem_singleton_self _), generation, last, ?_⟩
          simp [call]
      · intro dated total same given held own
        obtain ⟨rfl, rfl⟩ := Watch.next_numbers same
        change given.producer < old.producer + 1
        rcases List.mem_append.mp held with earlier | new
        · exact (count.behind _ _ latest given earlier own).trans (Nat.lt_succ_self _)
        · obtain rfl := List.mem_singleton.mp new
          rw [producer]
          exact Nat.lt_succ_self _
  | ended old publication earlier later ok pending shape found settled =>
      have latest := tracked.latest old found
      refine ⟨?_, ?_⟩
      · intro dated total same index below
        obtain ⟨rfl, rfl⟩ := Watch.next_numbers same
        obtain ⟨given, held, dated, placed, told⟩ :=
          count.covered old.generation old.producer latest index below
        exact ⟨given, held, dated, placed, known _ told⟩
      · intro dated total same given held own
        obtain ⟨rfl, rfl⟩ := Watch.next_numbers same
        exact count.behind _ _ latest given held own
  | erased image idle shown kept =>
      rw [watch.next_none]
      exact ⟨count.covered, count.behind⟩
  | created generation image size vacant idle fresh =>
      refine ⟨?_, ?_⟩
      · intro dated total latest index below
        obtain ⟨_, rfl⟩ := Watch.next_numbers latest
        simp at below
      · intro dated total latest given held own
        obtain ⟨rfl, _⟩ := Watch.next_numbers latest
        exact absurd own (fresh given held).ne

end Moves

/-! ## Runs -/

/-- The account of a JFC next to what was watched of it. -/
structure Counts (pipelined : Bool) (account : Account) (watch : Watch) : Prop where
  tracked : Tracked pipelined account watch
  serial : pipelined = false → SerialCount account watch
  overlapping : pipelined = true → PipelinedCount account watch

/-- In serial mode one CQE is written at a time. -/
theorem writing_single {config : Config} {state : State} {guard : State → Event → State → Prop}
    (serial : config.pipelinedCompletionDma = false)
    (reached : Reaches (step config) guard .initial state) (id : Nat) :
    (state.account id).writing.length ≤ 1 := by
  have held := held_le_load (balanced_of_reaches reached) id
  have one := serial_load_le serial state id
  have same : (state.account id).writing = (state.lane config id).writing := rfl
  rw [same]
  omega

theorem counts_of_watching {config : Config} {id : Nat} {state : State} {watch : Watch}
    (reached : Reaches (watching config id) (recordedGuard always) (.initial, .start)
      (state, watch)) :
    Counts config.pipelinedCompletionDma (state.account id) watch := by
  refine reached.recorded_induction
    (fun state watch => Counts config.pipelinedCompletionDma (state.account id) watch) ?_ ?_
  · have empty : State.initial.account id = ⟨none, none, [], []⟩ := rfl
    rw [empty]
    exact ⟨⟨by simp, by simp, by simp [Watch.start], by simp [Watch.start], by simp, by simp,
      by simp, by simp⟩, fun _ => ⟨by simp [Watch.start], by simp⟩,
      fun _ => ⟨by simp [Watch.start], by simp [Watch.start]⟩⟩
  · intro before event after watch earlier counts taken _
    have secured := (afloat_of_reaches earlier).secured (balanced_of_reaches earlier)
    have moved := step_account secured (filed_of_reaches earlier).vacant
      (numbered_of_reaches earlier id).slots taken
    have distinct := slots_nodup (earlier.tail taken trivial) id
    have single (serial : config.pipelinedCompletionDma = false) :=
      writing_single serial earlier id
    refine ⟨counts.tracked.move moved single distinct, fun serial => ?_, fun overlapping => ?_⟩
    · have tracked := counts.tracked
      rw [serial] at moved tracked
      exact (counts.serial serial).move tracked moved (single serial)
    · have tracked := counts.tracked
      rw [overlapping] at moved tracked
      exact (counts.overlapping overlapping).move tracked moved

/-- The image shows what the context counts, of a JFC that is there and of one that is gone. -/
theorem Counts.shown {config : Config} {id : Nat} {state : State} {watch : Watch}
    (counts : Counts config.pipelinedCompletionDma (state.account id) watch)
    (single : config.pipelinedCompletionDma = false → (state.account id).writing.length ≤ 1)
    (created : (state.jfcQueryContexts.lookup id).isSome) :
    ∃ generation count, watch.latest = some (generation, count) ∧
      shownPi (buildJfcQueryContext config state id) = (count +
        if config.pipelinedCompletionDma then 0 else (state.account id).writing.length) % 2 ^ 22 ∧
      shownWr (buildJfcQueryContext config state id) = count % 2 ^ 22 := by
  obtain ⟨image, stored⟩ := Option.isSome_iff_exists.mp created
  have tracked := counts.tracked
  cases found : state.jfcs.lookup id with
  | none =>
      have gone : (state.account id).tally = none := by simp [State.account, State.tally, found]
      obtain ⟨generation, count, latest, pi, wr⟩ := tracked.left gone image stored
      have built : buildJfcQueryContext config state id = image := by
        simp [buildJfcQueryContext, found, stored]
      refine ⟨generation, count, latest, ?_, built ▸ wr⟩
      rw [built, pi, tracked.absent gone]
      simp
  | some jfc =>
      have context : (state.account id).tally = some jfc.tally := by
        simp [State.account, State.tally, found]
      have size : ((state.jfcQueryContexts.lookup id).getD []).length = 128 := by
        rw [stored]
        exact tracked.sized image stored
      have shown : jfc.tally.Shown config.pipelinedCompletionDma
          (buildJfcQueryContext config state id) := buildJfcQueryContext_shown found size
      refine ⟨jfc.generation, jfc.producer, tracked.latest jfc.tally context, ?_, shown.wr⟩
      rw [shown.pi]
      cases mode : config.pipelinedCompletionDma with
      | true => rfl
      | false =>
          have pending : jfc.tally.writePending = !(state.account id).writing.isEmpty :=
            tracked.pending mode jfc.tally context
          have one := single mode
          rw [pending]
          cases shape : (state.account id).writing with
          | nil => rfl
          | cons publication rest =>
              rw [shape, List.length_cons] at one
              obtain rfl : rest = [] := List.length_eq_zero_iff.mp (by omega)
              rfl

/-- Every CQE write has a completion event slot. -/
theorem writing_le_tokens (outstanding : List Callback) (id : Nat) :
    (outstanding.filterMap (Callback.writing id)).length ≤
      (((outstanding.map Callback.tokens).sum).filterMap Token.slot?).card := by
  induction outstanding with
  | nil => simp
  | cons callback rest inductionHypothesis =>
      rw [List.map_cons, List.sum_cons, Multiset.filterMap_add, Multiset.card_add]
      have one : (callback.writing id).toList.length ≤
          (callback.tokens.filterMap Token.slot?).card := by
        cases callback with
        | cqeWritten ticket own publication =>
            have slots : ((Callback.cqeWritten ticket own publication).tokens.filterMap
                Token.slot?).card = 1 := rfl
            rw [slots]
            by_cases same : own = id <;> simp [Callback.writing, same]
        | _ => simp [Callback.writing]
      have split : ((callback :: rest).filterMap (Callback.writing id)).length =
          (callback.writing id).toList.length +
            (rest.filterMap (Callback.writing id)).length := by
        rw [← List.singleton_append, List.filterMap_append, List.length_append,
          filterMap_singleton]
      omega

theorem writing_lt {config : Config} {state : State} {guard : State → Event → State → Prop}
    (reached : Reaches (step config) guard .initial state) (id : Nat) :
    (state.account id).writing.length < 2 ^ 22 := by
  have balanced := balanced_of_reaches reached
  have written := writing_le_tokens state.outstanding id
  have within : (((state.outstanding.map Callback.tokens).sum).filterMap Token.slot?).card ≤
      (state.tokens.filterMap Token.slot?).card := by
    simp only [State.tokens, Multiset.filterMap_add, Multiset.card_add]
    omega
  have used : state.completionEventSlotsInUse = (state.tokens.filterMap Token.slot?).card :=
    balanced.inUse
  have bounded : state.completionEventSlotsInUse ≤ config.completionEventSlots := balanced.bounded
  have limit := config.slots_bounds.2
  have same : (state.account id).writing = state.outstanding.filterMap (Callback.writing id) := rfl
  rw [same]
  omega

/-- Two slots of one JFC at one index are the same. -/
theorem slot_unique {slots : List Slot} (climbing : slots.Pairwise Slot.Before) {one other : Slot}
    (held : one ∈ slots) (listed : other ∈ slots) (dated : one.generation = other.generation)
    (placed : one.producer = other.producer) : one = other := by
  have different : (slots.map fun slot => (slot.generation, slot.producer)).Nodup := by
    refine List.pairwise_map.mpr (climbing.imp fun {first second} earlier same => ?_)
    obtain ⟨generation, producer⟩ := Prod.mk.inj same
    rcases earlier with older | ⟨_, lower⟩
    · exact older.ne generation
    · exact lower.ne producer
  exact List.inj_on_of_nodup_map different held listed (Prod.ext dated placed)

/-- A CQE write has one outcome. -/
theorem Tracked.outcome {pipelined : Bool} {account : Account} {watch : Watch}
    (tracked : Tracked pipelined account watch) {call : Nat} (landed : (call, true) ∈ watch.ended) :
    (call, false) ∉ watch.ended := by
  intro failed
  have once := (List.nodup_append.mp tracked.once).1
  have same := List.inj_on_of_nodup_map once landed failed rfl
  simp at same

/-- The image is consistent exactly in serial mode, and in pipelined mode while no CQE of the JFC
is being written and none of the JFC installed last has failed: the pipelined context counts a
CQE when its write begins, in `pi` and in `wr_cqe_idx` alike. -/
theorem jfc_query_consistent_iff {config : Config} {id : Nat} {state : State} {watch : Watch}
    (reached : Reaches (watching config id) always (.initial, .start) (state, watch))
    (created : (state.jfcQueryContexts.lookup id).isSome) :
    Consistent (buildJfcQueryContext config state id) (state.account id) watch ↔
      config.pipelinedCompletionDma = false ∨
        (state.account id).writing = [] ∧ watch.Clean (slotsOf id state.trace) := by
  have recorded : Reaches (watching config id) (recordedGuard always) (.initial, .start)
      (state, watch) := reached.mono fun _ _ _ _ => trivial
  have plain : Reaches (step config) always .initial state := recorded.of_recorded
  have counts := counts_of_watching recorded
  obtain ⟨generation, count, latest, pi, wr⟩ :=
    counts.shown (fun serial => writing_single serial plain id) created
  have current {dated total : Nat} (same : watch.latest = some (dated, total)) :
      generation = dated ∧ count = total := Prod.mk.inj (Option.some.inj (latest.symm.trans same))
  cases mode : config.pipelinedCompletionDma with
  | false =>
      refine iff_of_true ⟨?_, fun dated total same => ?_, (counts.serial mode).visible⟩ (.inl rfl)
      · rw [pi, wr, mode]
        simp
      · rw [wr, (current same).2]
  | true =>
      have overlapping := counts.overlapping mode
      have climbing := (climbs_of_reaches mode plain id).climbing
      constructor
      · intro consistent
        refine .inr ⟨?_, fun dated total same slot held own failed => ?_⟩
        · have reserved := consistent.reserved
          have few := writing_lt plain id
          rw [pi, wr, mode, if_pos rfl] at reserved
          exact List.length_eq_zero_iff.mp (by omega)
        · have below := overlapping.behind dated total same slot held own
          obtain ⟨other, listed, alike, placed, landed⟩ :=
            consistent.visible dated total same slot.producer below
          obtain rfl := slot_unique climbing listed held (alike.trans own.symm) placed
          exact counts.tracked.outcome landed failed
      · rintro (serial | ⟨idle, clean⟩)
        · simp at serial
        refine ⟨?_, fun dated total same => ?_, fun dated total same index below => ?_⟩
        · rw [pi, wr, mode, idle]
          simp
        · rw [wr, (current same).2]
        · obtain ⟨slot, held, own, placed, known⟩ :=
            overlapping.covered dated total same index below
          rw [idle, List.map_nil, List.append_nil] at known
          obtain ⟨⟨call, ok⟩, listed, rfl⟩ := List.mem_map.mp known
          refine ⟨slot, held, own, placed, ?_⟩
          cases ok with
          | true => exact listed
          | false => exact absurd listed (clean dated total same slot held own)

/-- JFC 7 gets a CQE, which is reported, and another one, whose write does not end. -/
def secondWritten : List Event :=
  created ++ [.writeCqe 7 .small] ++ pass 7 ++
    [.fire 0 true (store32 0), .run, .fire 0 true []] ++ runs 11 ++ [.beginPass []] ++ runs 8 ++
    [.writeCqe 7 .small] ++ pass 7 ++ [.fire 1 true (store32 0)]

theorem jfc_query_consistent_during_write :
    ∃ state watch, Reaches (watching (.small false) 7) always (.initial, .start) (state, watch) ∧
      watch.latest = some (0, 1) ∧ (state.account 7).writing.length = 1 ∧
      Consistent (buildJfcQueryContext (.small false) state 7) (state.account 7) watch := by
  obtain ⟨⟨state, watch⟩, reached, seen⟩ := exists_of_execute
    (show (execute (watching (.small false) 7) always secondWritten (.initial, .start)).map
      (fun pair => (pair.2.latest, (pair.1.account 7).writing.length,
        (pair.1.jfcQueryContexts.lookup 7).isSome)) =
        some (some (0, 1), 1, true) by decide +kernel)
  simp only [Prod.mk.injEq] at seen
  exact ⟨state, watch, reached, seen.1, seen.2.1,
    (jfc_query_consistent_iff reached seen.2.2).mpr (.inl rfl)⟩

/-- While the first CQE of a pipelined JFC is written, the image shows it as written. -/
theorem jfc_query_ahead_of_write :
    ¬ ∀ (config : Config) (id : Nat) (state : State) (watch : Watch),
      Reaches (watching config id) always (.initial, .start) (state, watch) →
      (state.jfcQueryContexts.lookup id).isSome →
      Consistent (buildJfcQueryContext config state id) (state.account id) watch := by
  intro always_consistent
  obtain ⟨⟨state, watch⟩, reached, seen⟩ := exists_of_execute
    (show (execute (watching (.small true) 7) always
        (created ++ [.writeCqe 7 .small] ++ pass 7) (.initial, .start)).map
      (fun pair => ((pair.1.account 7).writing.length,
        shownPi (buildJfcQueryContext (.small true) pair.1 7),
        shownWr (buildJfcQueryContext (.small true) pair.1 7),
        (pair.1.jfcQueryContexts.lookup 7).isSome)) =
        some (1, 1, 1, true) by decide +kernel)
  simp only [Prod.mk.injEq] at seen
  obtain ⟨writing, pi, wr, found⟩ := seen
  have reserved := (always_consistent _ 7 state watch reached found).reserved
  rw [writing, pi, wr] at reserved
  simp at reserved

end Udma.Cq
