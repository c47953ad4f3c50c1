import Mathlib
import Udma.Collections.Consecutive
import Udma.Sq.Ledger

/-!
# The ring invariant

The unretired entries cover the ring from `consumer` to `issue` without a gap,
`issue` stays within the posted part of the ring, and whatever is under way has
room.  So the index of its last block names an entry.
-/

namespace Udma.Sq

open Udma.Abi Udma.Arithmetic Udma.Collections Udma.Transition

namespace SqCompletion

/-- What an entry keeps from its reservation on. -/
def place (entry : SqCompletion) : SqRequest × Nat × Nat :=
  (entry.request, entry.wqebbs, entry.index)

def position (entry : SqCompletion) : Nat := entry.request.position

end SqCompletion

namespace Ledger

/-- The guest stays less than half the range of producer values ahead. -/
def InWindow (ledger : Ledger) : Prop := sub32 ledger.target ledger.consumer < 2 ^ 31

/-- How far `issue` may go: neither past the posted descriptors nor around the ring. -/
def limit (ledger : Ledger) : Nat :=
  ledger.consumer + min ledger.depth (sub32 ledger.target ledger.consumer)

/-- The entry is named by the ring index of its last block. -/
structure Named (depth : Nat) (entry : SqCompletion) : Prop where
  index : entry.index = lastOf SqCompletion.position SqCompletion.wqebbs entry % depth
  wqebbs : entry.request.wqebbs = entry.wqebbs
  completedIndex : entry.request.completedIndex = entry.index

structure Ring (ledger : Ledger) : Prop where
  shape : ∃ shift : Fin 16, ledger.depth = 1 <<< shift.val
  consecutive : Consecutive SqCompletion.position SqCompletion.wqebbs ledger.consumer
    ledger.entries ledger.issue
  named : ∀ entry ∈ ledger.entries, Named ledger.depth entry
  room : ledger.issue ≤ ledger.limit
  demanded : ∀ count ∈ ledger.demands, ledger.issue + count ≤ ledger.limit
  captured : ∀ target ∈ ledger.targets,
    ledger.issue + sub32 target ledger.issue ≤ ledger.limit

theorem Named.of_place {depth : Nat} {entry other : SqCompletion} (named : Named depth entry)
    (same : other.place = entry.place) : Named depth other := by
  simp only [SqCompletion.place, Prod.mk.injEq] at same
  obtain ⟨request, wqebbs, index⟩ := same
  refine ⟨?_, ?_, ?_⟩
  · rw [index, named.index]
    simp only [lastOf, SqCompletion.position, request, wqebbs]
  · rw [request, wqebbs]
    exact named.wqebbs
  · rw [request, index]
    exact named.completedIndex

/-- The ring index computed with a mask. -/
theorem completedIndex_eq {depth : Nat} (shape : ∃ shift : Fin 16, depth = 1 <<< shift.val)
    (issue wqebbs : Nat) : completedIndex issue wqebbs depth = (issue + wqebbs - 1) % depth := by
  obtain ⟨shift, rfl⟩ := shape
  unfold completedIndex
  have bound : 2 ^ shift.val ≤ 2 ^ 15 := Nat.pow_le_pow_right (by decide) (by omega)
  rw [Nat.shiftLeft_eq, Nat.one_mul, Nat.and_two_pow_sub_one_eq_mod, Nat.mod_eq_of_lt]
  exact Nat.lt_of_lt_of_le (Nat.mod_lt _ (Nat.two_pow_pos _)) (by omega)

namespace Ring

variable {ledger : Ledger}

theorem consumer_le_issue (ring : ledger.Ring) : ledger.consumer ≤ ledger.issue :=
  ring.consecutive.base_le_limit

theorem limit_le (ledger : Ledger) :
    ledger.limit ≤ ledger.consumer + ledger.depth ∧
      ledger.limit ≤ ledger.consumer + sub32 ledger.target ledger.consumer := by
  unfold limit
  omega

/-- In a ring every entry is found by its index. -/
theorem eq_of_index_eq (ring : ledger.Ring) {first second : SqCompletion}
    (one : first ∈ ledger.entries) (two : second ∈ ledger.entries)
    (same : first.index = second.index) : first = second := by
  refine ring.consecutive.eq_of_last_mod_eq ledger.depth ?_ one two ?_
  · have := (limit_le ledger).1
    have := ring.room
    omega
  · rw [← (ring.named first one).index, ← (ring.named second two).index]
    exact same

/-- More room, and less under way. -/
theorem widen (ring : ledger.Ring) {next : Ledger} (depth : next.depth = ledger.depth)
    (consumer : next.consumer = ledger.consumer) (issue : next.issue = ledger.issue)
    (entries : next.entries = ledger.entries) (more : ledger.limit ≤ next.limit)
    (demanded : ∀ count ∈ next.demands, next.issue + count ≤ next.limit)
    (captured : ∀ target ∈ next.targets, next.issue + sub32 target next.issue ≤ next.limit) :
    next.Ring := by
  refine ⟨depth ▸ ring.shape, ?_, ?_, ?_, demanded, captured⟩
  · rw [consumer, issue, entries]
    exact ring.consecutive
  · rw [depth, entries]
    exact ring.named
  · rw [issue]
    exact Nat.le_trans ring.room more

theorem merge_limit {target : Nat} (near : ledger.InWindow)
    (still : InWindow { ledger with target := target }) (advances : Advances ledger.target target) :
    ledger.limit ≤ limit { ledger with target := target } := by
  unfold limit
  dsimp only
  rcases advances with rfl | ahead
  · exact Nat.le_refl _
  · have := sub32_le_of_ahead ledger.consumer ledger.target target ahead near still
    omega

/-- Whatever is under way keeps its room when the limit grows. -/
theorem demanded_of_le (ring : ledger.Ring) {limit : Nat} (more : ledger.limit ≤ limit) :
    ∀ count ∈ ledger.demands, ledger.issue + count ≤ limit :=
  fun count membership => Nat.le_trans (ring.demanded count membership) more

theorem captured_of_le (ring : ledger.Ring) {limit : Nat} (more : ledger.limit ≤ limit) :
    ∀ target ∈ ledger.targets, ledger.issue + sub32 target ledger.issue ≤ limit :=
  fun target membership => Nat.le_trans (ring.captured target membership) more

/-- The posted descriptors that are not issued, counted from `issue`. -/
theorem issue_add_sub32 (ring : ledger.Ring) {target : Nat}
    (posted : ledger.issue ≤ ledger.consumer + sub32 target ledger.consumer) :
    ledger.issue + sub32 target ledger.issue =
      ledger.consumer + sub32 target ledger.consumer := by
  obtain ⟨distance, shape⟩ := Nat.exists_eq_add_of_le ring.consumer_le_issue
  have within : distance ≤ sub32 target ledger.consumer := by omega
  have := sub32_advance target ledger.consumer distance within
  rw [shape, this]
  omega

/-- Entries change, but not their places. -/
theorem remark (ring : ledger.Ring) {next : Ledger} (depth : next.depth = ledger.depth)
    (consumer : next.consumer = ledger.consumer) (issue : next.issue = ledger.issue)
    (target : next.target = ledger.target) (demands : next.demands = ledger.demands)
    (targets : next.targets = ledger.targets)
    (places : next.entries.map SqCompletion.place = ledger.entries.map SqCompletion.place) :
    next.Ring := by
  have limit : next.limit = ledger.limit := by
    unfold Ledger.limit
    rw [depth, consumer, target]
  have starts : next.entries.map SqCompletion.position =
      ledger.entries.map SqCompletion.position := by
    have := congrArg (List.map fun place : SqRequest × Nat × Nat => place.1.position) places
    rwa [List.map_map, List.map_map] at this
  have widths : next.entries.map SqCompletion.wqebbs =
      ledger.entries.map SqCompletion.wqebbs := by
    have := congrArg (List.map fun place : SqRequest × Nat × Nat => place.2.1) places
    rwa [List.map_map, List.map_map] at this
  refine ⟨depth ▸ ring.shape, ?_, ?_, ?_, ?_, ?_⟩
  · rw [consumer, issue]
    exact ring.consecutive.of_map_eq starts widths
  · intro entry membership
    have : entry.place ∈ ledger.entries.map SqCompletion.place := by
      rw [← places]
      exact List.mem_map_of_mem membership
    obtain ⟨other, known, same⟩ := List.mem_map.mp this
    rw [depth]
    exact (ring.named other known).of_place same.symm
  · rw [issue, limit]
    exact ring.room
  · rw [issue, limit, demands]
    exact ring.demanded
  · rw [issue, limit, targets]
    exact ring.captured

/-- Entries retire from the front. -/
theorem retire (ring : ledger.Ring) {next : Ledger} {popped rest : List SqCompletion}
    (entries : ledger.entries = popped ++ rest) (depth : next.depth = ledger.depth)
    (consumer : next.consumer = ledger.consumer + (popped.map SqCompletion.wqebbs).sum)
    (issue : next.issue = ledger.issue) (target : next.target = ledger.target)
    (demands : next.demands = ledger.demands) (targets : next.targets = ledger.targets)
    (left : next.entries = rest) : next.Ring := by
  have consecutive := ring.consecutive
  rw [entries] at consecutive
  have remaining := consecutive.drop
  have within := remaining.base_le_limit
  have bounds := limit_le ledger
  have room := ring.room
  have more : ledger.limit ≤ next.limit := by
    unfold Ledger.limit
    rw [depth, consumer, target, sub32_advance _ _ _ (by omega)]
    omega
  refine ⟨depth ▸ ring.shape, ?_, ?_, ?_, ?_, ?_⟩
  · rw [consumer, issue, left]
    exact remaining
  · rw [depth, left]
    exact fun entry membership => ring.named entry (by simp [entries, membership])
  · rw [issue]
    omega
  · rw [issue, demands]
    exact ring.demanded_of_le more
  · rw [issue, targets]
    exact ring.captured_of_le more

/-- A descriptor takes the room that was found for it. -/
theorem reserve (ring : ledger.Ring) {next : Ledger} {request : SqRequest}
    (alone : request.wqebbs ∈ ledger.demands) (wide : 0 < request.wqebbs)
    (placed : request.position = ledger.issue)
    (named : request.completedIndex = completedIndex ledger.issue request.wqebbs ledger.depth)
    (depth : next.depth = ledger.depth) (consumer : next.consumer = ledger.consumer)
    (target : next.target = ledger.target) (issue : next.issue = ledger.issue + request.wqebbs)
    (entries : next.entries = ledger.entries ++ [request.entry])
    (demands : next.demands = 0) (targets : next.targets = 0) : next.Ring := by
  have limit : next.limit = ledger.limit := by
    unfold Ledger.limit
    rw [depth, consumer, target]
  refine ⟨depth ▸ ring.shape, ?_, ?_, ?_, by simp [demands], by simp [targets]⟩
  · rw [consumer, issue, entries]
    exact ring.consecutive.append_single placed wide
  · rw [depth, entries]
    intro entry membership
    rcases List.mem_append.mp membership with old | new
    · exact ring.named entry old
    · obtain rfl : entry = request.entry := by simpa using new
      refine ⟨?_, rfl, rfl⟩
      rw [← placed, completedIndex_eq ring.shape] at named
      exact named
  · rw [limit, issue]
    exact ring.demanded _ alone

end Ring

/-! ## Publication -/

/-- `RetireSq` publishes the front entry, one at a time. -/
structure Serial (id : Nat) (ledger : Ledger) : Prop where
  single : Multiset.card ledger.finishers ≤ ledger.publishing.toNat
  front : ∀ finisher ∈ ledger.finishers,
    ledger.entries.head? = some finisher.1 ∧ finisher.1.ready = true
  confirmed : ∀ finisher ∈ ledger.finishers, finisher.2 = some true →
    finisher.1.enabled = true → .published id finisher.1.request.position true ∈ ledger.history

/-- `RetireSqPipelined` publishes a prefix of the entries. -/
structure Pipelined (id : Nat) (ledger : Ledger) : Prop where
  live : ∀ finisher ∈ ledger.finishers, finisher.1 ∈ ledger.entries ∧
    finisher.1.publicationStarted = true ∧ finisher.1.publicationDone = false ∧
      finisher.1.ready = true
  distinct : (ledger.finishers.map Prod.fst).Nodup
  counted : ledger.inflight = Multiset.card ledger.finishers
  order : (ledger.entries.map SqCompletion.publicationStarted).Pairwise fun earlier later =>
    later = true → earlier = true
  flags : ∀ entry ∈ ledger.entries,
    (entry.publicationStarted = true → entry.ready = true) ∧
      (entry.publicationDone = true → entry.publicationStarted = true)
  confirmed : ∀ finisher ∈ ledger.finishers, finisher.2 = some true →
    finisher.1.enabled = true → .published id finisher.1.request.position true ∈ ledger.history
  done : ∀ entry ∈ ledger.entries, entry.publicationDone = true → entry.enabled = true →
    .published id entry.request.position true ∈ ledger.history

def Published (pipelined : Bool) (id : Nat) (ledger : Ledger) : Prop :=
  if pipelined then ledger.Pipelined id else ledger.Serial id

theorem Published.serial {id : Nat} {ledger : Ledger} {pipelined : Bool}
    (published : ledger.Published pipelined id) (mode : pipelined = false) :
    ledger.Serial id := by
  simpa [Published, mode] using published

theorem Published.pipelined {id : Nat} {ledger : Ledger} {pipelined : Bool}
    (published : ledger.Published pipelined id) (mode : pipelined = true) :
    ledger.Pipelined id := by
  simpa [Published, mode] using published

/-! ## Places along the markings -/

theorem complete_places {entries : List SqCompletion} {request : SqRequest}
    {entry : SqCompletion} (found : entries.find? request.names = some entry)
    (size : entry.wqebbs = request.wqebbs) (status substatus : Nat) :
    (markFirst request.names (fun found => found.complete request status substatus)
      entries).map SqCompletion.place = entries.map SqCompletion.place := by
  obtain ⟨earlier, later, shape, skipped, hit⟩ := split_of_find found
  have index : entry.index = request.completedIndex := by simpa [SqRequest.names] using hit
  rw [shape, markFirst_append skipped hit]
  simp [SqCompletion.place, SqCompletion.complete, index, size]

theorem start_places (entries : List SqCompletion) :
    (markFirst SqCompletion.unstarted SqCompletion.start entries).map SqCompletion.place =
      entries.map SqCompletion.place := by
  apply map_markFirst
  intro found
  rfl

theorem finish_places (entry : SqCompletion) (entries : List SqCompletion) :
    (markFirst entry.sameIndex SqCompletion.finish entries).map SqCompletion.place =
      entries.map SqCompletion.place := by
  apply map_markFirst
  intro found
  rfl

section Steps

variable {pipelined : Bool} {id : Nat} {tardy lossy : Prop} {ledger next : Ledger}

theorem Step.ring (step : Step pipelined id tardy lossy ledger next) (ring : ledger.Ring)
    (published : ledger.Published pipelined id) (near : ledger.InWindow)
    (still : next.InWindow) : next.Ring := by
  cases step with
  | same => exact ring
  | vanish targets demands finishers owners empty idle fewerTargets fewerDemands =>
      refine ring.widen rfl rfl rfl rfl (Nat.le_refl _) ?_ ?_
      · exact fun count membership =>
          ring.demanded count (Multiset.subset_of_le fewerDemands membership)
      · exact fun target membership =>
          ring.captured target (Multiset.subset_of_le fewerTargets membership)
  | create shift empty level =>
      obtain ⟨target, consumer⟩ := level
      have zero : sub32 ledger.target ledger.consumer = 0 := by rw [target, consumer]; rfl
      have limit : ledger.limit = Ledger.limit { ledger with depth := 1 <<< shift.val } := by
        unfold Ledger.limit
        dsimp only
        rw [zero, Nat.min_zero, Nat.min_zero]
      refine ⟨⟨shift, rfl⟩, ring.consecutive, by simp [empty], ?_, ?_, ?_⟩
      · rw [← limit]
        exact ring.room
      · rw [← limit]
        exact ring.demanded
      · rw [← limit]
        exact ring.captured
  | merge target advances =>
      have more := Ring.merge_limit near still advances
      exact ring.widen rfl rfl rfl rfl more (ring.demanded_of_le more) (ring.captured_of_le more)
  | capture target advances close =>
      have more := Ring.merge_limit near still advances
      refine ring.widen rfl rfl rfl rfl more (ring.demanded_of_le more) ?_
      intro other membership
      rcases Multiset.mem_cons.mp membership with rfl | old
      · -- everything posted now fits the ring
        have posted := Nat.le_trans ring.room (Nat.le_trans more (Ring.limit_le _).2)
        dsimp only at posted ⊢
        rw [ring.issue_add_sub32 posted]
        unfold Ledger.limit
        dsimp only
        omega
      · exact ring.captured_of_le more other old
  | direct target advances close level =>
      have more := Ring.merge_limit near still advances
      refine ring.widen rfl rfl rfl rfl more ?_ (ring.captured_of_le more)
      intro count membership
      rcases Multiset.mem_cons.mp membership with rfl | old
      · have posted := Nat.le_trans ring.room (Nat.le_trans more (Ring.limit_le _).2)
        dsimp only at posted ⊢
        have sum := ring.issue_add_sub32 posted
        have some : sub32 target ledger.issue ≠ 0 := by
          intro zero
          have := add_sub32_mod ledger.issue target
          rw [zero] at this
          omega
        unfold Ledger.limit
        dsimp only
        omega
      · exact ring.demanded_of_le more count old
  | forget target targets held =>
      refine ring.widen rfl rfl rfl rfl (Nat.le_refl _) ring.demanded ?_
      exact fun other membership => ring.captured other (by rw [held]; simp [membership])
  | take target count targets held fits =>
      refine ring.widen rfl rfl rfl rfl (Nat.le_refl _) ?_ ?_
      · intro other membership
        rcases Multiset.mem_cons.mp membership with rfl | old
        · have captured := ring.captured target (by rw [held]; simp)
          exact Nat.le_trans (Nat.add_le_add_left fits _) captured
        · exact ring.demanded other old
      · exact fun other membership => ring.captured other (by rw [held]; simp [membership])
  | release count demands held =>
      refine ring.widen rfl rfl rfl rfl (Nat.le_refl _) ?_ ring.captured
      exact fun other membership => ring.demanded other (by rw [held]; simp [membership])
  | reserve request alone clear wide placed named =>
      exact ring.reserve (by simp [alone]) wide placed named rfl rfl rfl rfl rfl rfl clear
  | late => exact ring.remark rfl rfl rfl rfl rfl rfl rfl
  | lose => exact ring.remark rfl rfl rfl rfl rfl rfl rfl
  | ignore => exact ring.remark rfl rfl rfl rfl rfl rfl rfl
  | complete request status substatus owners entry held found waiting size =>
      exact ring.remark rfl rfl rfl rfl rfl rfl (complete_places found size status substatus)
  | publish => exact ring.remark rfl rfl rfl rfl rfl rfl rfl
  | publishNext => exact ring.remark rfl rfl rfl rfl rfl rfl (start_places _)
  | report => exact ring.remark rfl rfl rfl rfl rfl rfl rfl
  | keep => exact ring.remark rfl rfl rfl rfl rfl rfl rfl
  | pop entry finishers serial held =>
      have front := ((published.serial serial).front (entry, some true) (by simp [held])).1
      obtain ⟨rest, queue⟩ := List.head?_eq_some_iff.mp front
      exact ring.retire (show ledger.entries = [entry] ++ rest from queue) rfl (by simp) rfl rfl
        rfl rfl (by simp [queue])
  | abort => exact ring.remark rfl rfl rfl rfl rfl rfl rfl
  | retire entry current marked finishers mode held found started waiting marking =>
      have places := finish_places entry ledger.entries
      rw [← marking] at places
      have remarked : Ring { ledger with entries := marked } :=
        ring.remark rfl rfl rfl rfl rfl rfl places
      exact remarked.retire List.takeWhile_append_dropWhile.symm rfl rfl rfl rfl rfl rfl rfl

/-- Nothing new is published and the front stays where it is. -/
theorem Serial.keep (serial : ledger.Serial id) (finishers : next.finishers ≤ ledger.finishers)
    (publishing : next.publishing = ledger.publishing)
    (front : ∀ entry, ledger.entries.head? = some entry → entry.ready = true →
      next.entries.head? = some entry)
    (history : ledger.history ⊆ next.history) : next.Serial id where
  single := publishing ▸ Nat.le_trans (Multiset.card_le_card finishers) serial.single
  front finisher membership := by
    obtain ⟨head, ready⟩ :=
      serial.front finisher (Multiset.subset_of_le finishers membership)
    exact ⟨front _ head ready, ready⟩
  confirmed finisher membership good enabled :=
    history (serial.confirmed finisher (Multiset.subset_of_le finishers membership) good enabled)

/-- `CompleteSq` does not touch an entry that is ready. -/
theorem head_complete {entries : List SqCompletion} {request : SqRequest}
    {entry front : SqCompletion} (found : entries.find? request.names = some entry)
    (waiting : entry.ready = false) (head : entries.head? = some front)
    (ready : front.ready = true) (status substatus : Nat) :
    (markFirst request.names (fun found => found.complete request status substatus)
      entries).head? = some front := by
  obtain ⟨rest, rfl⟩ := List.head?_eq_some_iff.mp head
  by_cases named : request.names front = true
  · rw [List.find?_cons_of_pos named, Option.some.injEq] at found
    subst found
    simp [ready] at waiting
  · simp [markFirst, named]

theorem Step.keepsSerial (step : Step pipelined id tardy lossy ledger next)
    (mode : pipelined = false) (serial : ledger.Serial id) : next.Serial id := by
  have kept : ∀ entry : SqCompletion, ledger.entries.head? = some entry → entry.ready = true →
      ledger.entries.head? = some entry := fun _ head _ => head
  cases step with
  | same => exact serial
  | vanish targets demands finishers owners empty idle fewerTargets fewerDemands fewer =>
      exact serial.keep fewer rfl kept (List.Subset.refl _)
  | create | merge | capture | direct | forget | take | release | late | lose =>
      exact serial.keep (le_refl _) rfl kept (List.Subset.refl _)
  | reserve request =>
      refine serial.keep (le_refl _) rfl ?_ (List.subset_append_left _ _)
      intro entry head _
      obtain ⟨rest, queue⟩ := List.head?_eq_some_iff.mp head
      simp [queue]
  | ignore => exact serial.keep (le_refl _) rfl kept (List.subset_append_left _ _)
  | complete request status substatus owners entry held found waiting size =>
      refine serial.keep (le_refl _) rfl ?_ (List.subset_append_left _ _)
      intro front head ready
      exact head_complete found waiting head ready status substatus
  | publish front rest call _ queue idle ready reports =>
      have none : ledger.finishers = 0 := by
        have single := serial.single
        rw [idle] at single
        exact Multiset.card_eq_zero.mp (by simpa using single)
      refine ⟨by simp [none], ?_, ?_⟩
      · intro finisher membership
        obtain rfl : finisher = (front, front.verdict) := by simpa [none] using membership
        exact ⟨by simp [queue], ready⟩
      · intro finisher membership good enabled
        obtain rfl : finisher = (front, front.verdict) := by simpa [none] using membership
        simp only at enabled
        simp [SqCompletion.verdict, enabled] at good
  | publishNext next call other => simp [mode] at other
  | report entry ok finishers held =>
      have single := serial.single
      have front := serial.front
      have confirmed := serial.confirmed
      rw [held] at single front confirmed
      refine ⟨by simpa using single, ?_, ?_⟩
      · intro finisher membership
        rcases Multiset.mem_cons.mp membership with rfl | old
        · exact front (entry, none) (by simp)
        · exact front finisher (by simp [old])
      · intro finisher membership good enabled
        rcases Multiset.mem_cons.mp membership with rfl | old
        · obtain rfl : ok = true := by simpa using good
          simp
        · exact List.mem_append_left _ (confirmed finisher (by simp [old]) good enabled)
  | keep entry finishers _ held =>
      refine serial.keep ?_ rfl kept (List.Subset.refl _)
      rw [held]
      exact Multiset.le_cons_self _ _
  | pop entry finishers _ held =>
      have none : finishers = 0 := by
        have single := serial.single
        have := Bool.toNat_le ledger.publishing
        rw [held, Multiset.card_cons] at single
        exact Multiset.card_eq_zero.mp (by omega)
      exact ⟨by simp [none], by simp [none], by simp [none]⟩
  | abort entry ok finishers other => simp [mode] at other
  | retire entry current marked finishers other => simp [mode] at other

/-- The entries under publication and what has been published stay as they are. -/
theorem Pipelined.keep (publication : ledger.Pipelined id)
    (finishers : next.finishers = ledger.finishers) (inflight : next.inflight = ledger.inflight)
    (live : ∀ entry ∈ ledger.entries, entry.ready = true → entry ∈ next.entries)
    (order : next.entries.map SqCompletion.publicationStarted =
      ledger.entries.map SqCompletion.publicationStarted)
    (changed : ∀ entry ∈ next.entries, entry ∈ ledger.entries ∨
      (entry.publicationStarted = false ∧ entry.publicationDone = false))
    (history : ledger.history ⊆ next.history) : next.Pipelined id where
  live finisher membership := by
    obtain ⟨known, started, waiting, ready⟩ := publication.live finisher (finishers ▸ membership)
    exact ⟨live _ known ready, started, waiting, ready⟩
  distinct := finishers ▸ publication.distinct
  counted := by rw [inflight, finishers, publication.counted]
  order := order ▸ publication.order
  flags entry membership := by
    rcases changed entry membership with old | ⟨started, waiting⟩
    · exact publication.flags entry old
    · simp [started, waiting]
  confirmed finisher membership good enabled :=
    history (publication.confirmed finisher (finishers ▸ membership) good enabled)
  done entry membership finished enabled := by
    rcases changed entry membership with old | ⟨_, waiting⟩
    · exact history (publication.done entry old finished enabled)
    · simp [waiting] at finished

/-- An element of a list with one element changed. -/
theorem mem_of_changed {earlier later : List SqCompletion} {entry changed other : SqCompletion}
    (membership : other ∈ earlier ++ entry :: later) (different : other ≠ entry) :
    other ∈ earlier ++ changed :: later := by
  simp only [List.mem_append, List.mem_cons] at membership ⊢
  tauto

/-- The next entry goes to the completion engine. -/
theorem Pipelined.publishNext (publication : ledger.Pipelined id) (ring : ledger.Ring)
    {entry : SqCompletion} (found : ledger.entries.find? SqCompletion.unstarted = some entry)
    (ready : entry.ready = true) (call : CqeCall) :
    Pipelined id { ledger with
      entries := markFirst SqCompletion.unstarted SqCompletion.start ledger.entries
      publishing := true
      inflight := ledger.inflight + 1
      finishers := (entry.start, entry.verdict) ::ₘ ledger.finishers
      history := ledger.history ++ entry.submission id call } := by
  obtain ⟨earlier, later, shape, skipped, hit⟩ := split_of_find found
  have known : entry ∈ ledger.entries := by simp [shape]
  have unstarted : entry.publicationStarted = false := by
    simpa [SqCompletion.unstarted, ready] using hit
  have waiting : entry.publicationDone = false := by
    cases finished : entry.publicationDone with
    | false => rfl
    | true =>
        have := (publication.flags entry known).2 finished
        simp [unstarted] at this
  have marked : markFirst SqCompletion.unstarted SqCompletion.start ledger.entries =
      earlier ++ entry.start :: later := by
    rw [shape]
    exact markFirst_append skipped hit
  -- the started entry is in no earlier publication: its place would be taken twice
  have fresh : entry.start ∉ ledger.entries := by
    intro twice
    have same := ring.eq_of_index_eq twice known rfl
    have : entry.start.publicationStarted = true := rfl
    rw [same, unstarted] at this
    simp at this
  refine ⟨?_, ?_, ?_, ?_, ?_, ?_, ?_⟩
  · intro finisher membership
    dsimp only
    rw [marked]
    rcases Multiset.mem_cons.mp membership with rfl | old
    · exact ⟨by simp, rfl, waiting, ready⟩
    · obtain ⟨old, started, rest⟩ := publication.live finisher old
      refine ⟨mem_of_changed (shape ▸ old) ?_, started, rest⟩
      rintro rfl
      simp [unstarted] at started
  · dsimp only
    rw [Multiset.map_cons, Multiset.nodup_cons]
    refine ⟨?_, publication.distinct⟩
    intro twice
    obtain ⟨finisher, held, same⟩ := Multiset.mem_map.mp twice
    have old := (publication.live finisher held).1
    rw [same] at old
    exact fresh old
  · simp [publication.counted]
  · have order := publication.order
    dsimp only
    rw [marked]
    rw [shape] at order
    simp only [List.map_append, List.map_cons, List.pairwise_append, List.pairwise_cons] at order ⊢
    obtain ⟨front, ⟨_, back⟩, across⟩ := order
    have all : ∀ flag ∈ earlier.map SqCompletion.publicationStarted, flag = true := by
      intro flag membership
      obtain ⟨other, inside, rfl⟩ := List.mem_map.mp membership
      have passed := skipped other inside
      simp only [SqCompletion.unstarted, Bool.not_eq_false', Bool.and_eq_true] at passed
      exact passed.2
    exact ⟨front, ⟨fun _ _ _ => rfl, back⟩, fun flag inside _ _ _ => all flag inside⟩
  · intro other membership
    dsimp only at membership
    rw [marked] at membership
    by_cases same : other = entry.start
    · subst same
      exact ⟨fun _ => ready, fun finished => rfl⟩
    · exact publication.flags other (shape ▸ mem_of_changed membership same)
  · intro finisher membership good enabled
    apply List.mem_append_left
    rcases Multiset.mem_cons.mp membership with rfl | old
    · have : entry.enabled = true := enabled
      simp [SqCompletion.verdict, this] at good
    · exact publication.confirmed finisher old good enabled
  · intro other membership finished enabled
    apply List.mem_append_left
    dsimp only at membership
    rw [marked] at membership
    by_cases same : other = entry.start
    · subst same
      have : entry.publicationDone = true := finished
      simp [waiting] at this
    · exact publication.done other (shape ▸ mem_of_changed membership same) finished enabled

theorem mem_dropWhile {entries : List SqCompletion} {entry : SqCompletion}
    (membership : entry ∈ entries) (waiting : entry.publicationDone = false) :
    entry ∈ entries.dropWhile (·.publicationDone) := by
  have parts := List.takeWhile_append_dropWhile (p := (·.publicationDone)) (l := entries)
  rw [← parts] at membership
  rcases List.mem_append.mp membership with front | back
  · have := List.mem_takeWhile_imp front
    simp [waiting] at this
  · exact back

/-- The publication that reports is the one of the entry with its index. -/
theorem Pipelined.current_eq (publication : ledger.Pipelined id) (ring : ledger.Ring)
    {entry current : SqCompletion} {finishers : Multiset (SqCompletion × Option Bool)}
    (held : ledger.finishers = (entry, some true) ::ₘ finishers)
    (found : ledger.entries.find? entry.sameIndex = some current) : current = entry := by
  have hit := List.find?_some found
  exact ring.eq_of_index_eq (List.mem_of_find?_eq_some found)
    (publication.live (entry, some true) (by simp [held])).1
    (by simpa [SqCompletion.sameIndex] using hit)

/-- The flags of the entries when a publication has been marked done. -/
theorem Pipelined.marked_flags (publication : ledger.Pipelined id) (ring : ledger.Ring)
    {entry current : SqCompletion} {finishers : Multiset (SqCompletion × Option Bool)}
    (held : ledger.finishers = (entry, some true) ::ₘ finishers)
    (found : ledger.entries.find? entry.sameIndex = some current) :
    ∀ other ∈ markFirst entry.sameIndex SqCompletion.finish ledger.entries,
      (other.publicationStarted = true → other.ready = true) ∧
      (other.publicationDone = true → other.publicationStarted = true) ∧
      (other.publicationDone = true → other.enabled = true →
        .published id other.request.position true ∈ ledger.history) := by
  obtain rfl := publication.current_eq ring held found
  obtain ⟨earlier, later, shape, skipped, hit⟩ := split_of_find found
  obtain ⟨_, started, waiting, ready⟩ := publication.live (current, some true) (by simp [held])
  intro other membership
  rw [shape, markFirst_append skipped hit] at membership
  by_cases same : other = current.finish
  · subst same
    exact ⟨fun _ => ready, fun _ => started, fun _ enabled =>
      publication.confirmed (current, some true) (by simp [held]) rfl enabled⟩
  · have old : other ∈ ledger.entries := shape ▸ mem_of_changed membership same
    exact ⟨(publication.flags other old).1, (publication.flags other old).2,
      publication.done other old⟩

/-- A publication is reported done, and the entries done in front retire. -/
theorem Pipelined.retire (publication : ledger.Pipelined id) (ring : ledger.Ring)
    {entry current : SqCompletion} {finishers : Multiset (SqCompletion × Option Bool)}
    (held : ledger.finishers = (entry, some true) ::ₘ finishers)
    (found : ledger.entries.find? entry.sameIndex = some current)
    {marked : List SqCompletion}
    (marking : marked = markFirst entry.sameIndex SqCompletion.finish ledger.entries)
    (entries : next.entries = marked.dropWhile (·.publicationDone))
    (rest : next.finishers = finishers) (inflight : next.inflight = ledger.inflight - 1)
    (history : ledger.history ⊆ next.history) : next.Pipelined id := by
  have flags := publication.marked_flags ring held found
  rw [← marking] at flags
  obtain rfl := publication.current_eq ring held found
  obtain ⟨earlier, later, shape, skipped, hit⟩ := split_of_find found
  have marked_eq : marked = earlier ++ current.finish :: later := by
    rw [marking, shape]
    exact markFirst_append skipped hit
  have distinct := publication.distinct
  rw [held, Multiset.map_cons, Multiset.nodup_cons] at distinct
  have suffix : ∀ other ∈ next.entries, other ∈ marked := by
    rw [entries]
    exact fun other membership => (List.dropWhile_suffix _).subset membership
  refine ⟨?_, rest ▸ distinct.2, ?_, ?_, ?_, ?_, ?_⟩
  · intro finisher membership
    rw [rest] at membership
    obtain ⟨old, begun, open_, complete⟩ := publication.live finisher (by simp [held, membership])
    have different : finisher.1 ≠ current := by
      intro same
      exact distinct.1 (Multiset.mem_map.mpr ⟨finisher, membership, same⟩)
    refine ⟨?_, begun, open_, complete⟩
    rw [entries]
    apply mem_dropWhile _ open_
    rw [marked_eq]
    exact mem_of_changed (shape ▸ old) different
  · rw [inflight, publication.counted, held, rest]
    simp
  · have started : marked.map SqCompletion.publicationStarted =
        ledger.entries.map SqCompletion.publicationStarted := by
      rw [marking]
      apply map_markFirst
      intro found
      rfl
    have order := publication.order
    rw [← started] at order
    rw [entries]
    exact order.sublist ((List.dropWhile_suffix _).sublist.map _)
  · exact fun other membership =>
      ⟨(flags other (suffix other membership)).1, (flags other (suffix other membership)).2.1⟩
  · intro finisher membership good enabled
    rw [rest] at membership
    exact history (publication.confirmed finisher (by simp [held, membership]) good enabled)
  · exact fun other membership finished enabled =>
      history ((flags other (suffix other membership)).2.2 finished enabled)

theorem Step.keepsPipelined (step : Step pipelined id tardy lossy ledger next)
    (mode : pipelined = true) (ring : ledger.Ring) (publication : ledger.Pipelined id) :
    next.Pipelined id := by
  have stays : ∀ entry ∈ ledger.entries, entry.ready = true → entry ∈ ledger.entries :=
    fun _ membership _ => membership
  have same : ∀ entry ∈ ledger.entries, entry ∈ ledger.entries ∨
      (entry.publicationStarted = false ∧ entry.publicationDone = false) :=
    fun _ membership => .inl membership
  cases step with
  | same => exact publication
  | vanish targets demands finishers owners empty idle fewerTargets fewerDemands fewer =>
      have none : ledger.finishers = 0 :=
        Multiset.card_eq_zero.mp (publication.counted.symm.trans idle)
      rw [none] at fewer
      exact publication.keep ((Multiset.le_zero.mp fewer).trans none.symm) rfl stays rfl same
        (List.Subset.refl _)
  | create | merge | capture | direct | forget | take | release | late | lose =>
      exact publication.keep rfl rfl stays rfl same (List.Subset.refl _)
  | reserve request =>
      refine ⟨?_, publication.distinct, publication.counted, ?_, ?_, ?_, ?_⟩
      · intro finisher membership
        obtain ⟨known, rest⟩ := publication.live finisher membership
        exact ⟨List.mem_append_left _ known, rest⟩
      · simp only [List.map_append, List.pairwise_append]
        refine ⟨publication.order, by simp, ?_⟩
        intro flag _ other membership begun
        have : other = false := by simpa [SqRequest.entry] using membership
        simp [this] at begun
      · intro entry membership
        rcases List.mem_append.mp membership with old | new
        · exact publication.flags entry old
        · obtain rfl : entry = request.entry := by simpa using new
          simp [SqRequest.entry]
      · exact fun finisher membership good enabled =>
          List.mem_append_left _ (publication.confirmed finisher membership good enabled)
      · intro entry membership finished enabled
        rcases List.mem_append.mp membership with old | new
        · exact List.mem_append_left _ (publication.done entry old finished enabled)
        · obtain rfl : entry = request.entry := by simpa using new
          simp [SqRequest.entry] at finished
  | ignore => exact publication.keep rfl rfl stays rfl same (List.subset_append_left _ _)
  | complete request status substatus owners entry held found waiting size =>
      obtain ⟨earlier, later, shape, skipped, hit⟩ := split_of_find found
      have marked : markFirst request.names
          (fun found => found.complete request status substatus) ledger.entries =
            earlier ++ entry.complete request status substatus :: later := by
        rw [shape]
        exact markFirst_append skipped hit
      have unstarted : entry.publicationStarted = false := by
        cases started : entry.publicationStarted with
        | false => rfl
        | true =>
            have := (publication.flags entry (by simp [shape])).1 started
            simp [waiting] at this
      refine publication.keep rfl rfl ?_ ?_ ?_ (List.subset_append_left _ _)
      · intro other membership ready
        dsimp only
        rw [marked]
        refine mem_of_changed (shape ▸ membership) ?_
        rintro rfl
        simp [waiting] at ready
      · dsimp only
        rw [marked, shape]
        simp [SqCompletion.complete, unstarted]
      · intro other membership
        dsimp only at membership
        rw [marked] at membership
        by_cases changed : other = entry.complete request status substatus
        · right
          subst changed
          exact ⟨rfl, rfl⟩
        · left
          rw [shape]
          exact mem_of_changed membership changed
  | publish front rest call other => simp [mode] at other
  | publishNext entry call _ found ready reports =>
      exact publication.publishNext ring found ready call
  | report entry ok finishers held =>
      have live := publication.live
      have distinct := publication.distinct
      have counted := publication.counted
      have confirmed := publication.confirmed
      rw [held] at live distinct counted confirmed
      refine ⟨?_, by simpa using distinct, by simpa using counted, publication.order,
        publication.flags, ?_, ?_⟩
      · intro finisher membership
        rcases Multiset.mem_cons.mp membership with rfl | old
        · exact live (entry, none) (by simp)
        · exact live finisher (by simp [old])
      · intro finisher membership good enabled
        rcases Multiset.mem_cons.mp membership with rfl | old
        · obtain rfl : ok = true := by simpa using good
          simp
        · exact List.mem_append_left _ (confirmed finisher (by simp [old]) good enabled)
      · exact fun other membership finished enabled =>
          List.mem_append_left _ (publication.done other membership finished enabled)
  | keep entry finishers other => simp [mode] at other
  | pop entry finishers other => simp [mode] at other
  | abort entry ok finishers _ held reason =>
      have distinct := publication.distinct
      have counted := publication.counted
      rw [held] at distinct counted
      rw [Multiset.map_cons, Multiset.nodup_cons] at distinct
      refine ⟨?_, distinct.2, ?_, publication.order, publication.flags, ?_, publication.done⟩
      · exact fun finisher membership => publication.live finisher (by simp [held, membership])
      · simp [counted]
      · exact fun finisher membership =>
          publication.confirmed finisher (by simp [held, membership])
  | retire entry current marked finishers _ held found started waiting marking =>
      exact publication.retire ring held found marking rfl rfl rfl (List.subset_append_left _ _)

theorem Step.published (step : Step pipelined id tardy lossy ledger next) (ring : ledger.Ring)
    (published : ledger.Published pipelined id) : next.Published pipelined id := by
  cases mode : pipelined with
  | false => exact step.keepsSerial mode (published.serial mode)
  | true => exact step.keepsPipelined mode ring (published.pipelined mode)

end Steps

/-- `consumer` advances by popping entries that are ready and, where a completion was asked
for, published. -/
structure Pops (id : Nat) (ledger next : Ledger) (popped : List SqCompletion) : Prop where
  front : ledger.entries.map SqCompletion.place =
    popped.map SqCompletion.place ++ next.entries.map SqCompletion.place
  advanced : next.consumer = ledger.consumer + (popped.map SqCompletion.wqebbs).sum
  ready : ∀ entry ∈ popped, entry.ready = true
  published : ∀ entry ∈ popped, entry.enabled = true →
    .published id entry.request.position true ∈ ledger.history

theorem Step.pops {pipelined : Bool} {id : Nat} {tardy lossy : Prop} {ledger next : Ledger}
    (step : Step pipelined id tardy lossy ledger next) (ring : ledger.Ring)
    (published : ledger.Published pipelined id) :
    next.consumer = ledger.consumer ∨ ∃ popped, Pops id ledger next popped := by
  cases step with
  | pop entry finishers serial held =>
      obtain ⟨single, front, confirmed⟩ := published.serial serial
      obtain ⟨head, ready⟩ := front (entry, some true) (by simp [held])
      obtain ⟨rest, queue⟩ := List.head?_eq_some_iff.mp head
      right
      refine ⟨[entry], by simp [queue], by simp, by simpa using ready, ?_⟩
      intro popped membership enabled
      obtain rfl : popped = entry := by simpa using membership
      exact confirmed (popped, some true) (by simp [held]) rfl enabled
  | retire entry current marked finishers mode held found started waiting marking =>
      have flags := (published.pipelined mode).marked_flags ring held found
      rw [← marking] at flags
      right
      refine ⟨marked.takeWhile (·.publicationDone), ?_, rfl, ?_, ?_⟩
      · rw [← List.map_append, List.takeWhile_append_dropWhile, marking, finish_places]
      · intro popped membership
        obtain ⟨ready, started, _⟩ := flags popped ((List.takeWhile_prefix _).subset membership)
        exact ready (started (List.mem_takeWhile_imp membership))
      · intro popped membership
        obtain ⟨_, _, done⟩ := flags popped ((List.takeWhile_prefix _).subset membership)
        exact done (List.mem_takeWhile_imp membership)
  | _ => exact .inl rfl

end Ledger

/-! ## Runs -/

/-- The producer of the Jetty stays within half the range of its consumer. -/
def State.Windowed (state : State) (id : Nat) : Prop :=
  sub32 (state.lane id).context.targetProducer (state.lane id).context.consumer < 2 ^ 31

instance (state : State) (id : Nat) : Decidable (state.Windowed id) := Nat.decLt _ _

theorem Ledger.initial_ring :
    (Lane.ledger ⟨.blank, [], [], [], []⟩).Ring := by
  refine ⟨⟨0, rfl⟩, rfl, by simp [Lane.ledger], Nat.le_refl _, by simp [Lane.ledger],
    by simp [Lane.ledger]⟩

theorem Ledger.initial_published (pipelined : Bool) (id : Nat) :
    (Lane.ledger ⟨.blank, [], [], [], []⟩).Published pipelined id := by
  unfold Published
  split
  · exact ⟨by simp [Lane.ledger], by simp [Lane.ledger], by simp [Lane.ledger],
      by simp [Lane.ledger], by simp [Lane.ledger], by simp [Lane.ledger], by simp [Lane.ledger]⟩
  · exact ⟨by simp [Lane.ledger], by simp [Lane.ledger], by simp [Lane.ledger]⟩

/-- The ring invariant holds in every run in which the guest stays in the window. -/
theorem ring_of_reaches {config : Config} {guard : State → Event → State → Prop} (id : Nat)
    (windowed : ∀ before event after, guard before event after → after.Windowed id)
    {state : State} (reached : Reaches (step config) guard (State.initial config) state) :
    (state.lane id).ledger.Ring ∧
      (state.lane id).ledger.Published config.pipelinedCompletionDma id ∧ state.Windowed id := by
  refine ledger_of_reaches id (fun ledger => ledger.Ring ∧
    ledger.Published config.pipelinedCompletionDma id ∧ ledger.InWindow) reached
    ⟨Ledger.initial_ring, Ledger.initial_published _ id, by unfold Ledger.InWindow; decide⟩ ?_
  rintro before event after earlier allowed ⟨ring, published, near⟩ step
  have still := windowed before event after allowed
  exact ⟨step.ring ring published near still, step.published ring published, still⟩

end Udma.Sq
