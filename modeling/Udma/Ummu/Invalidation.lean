import Udma.Transition.Trace
import Udma.Ummu.Isolation

/-!
# Invalidation by a register write

A register write clears the IOTLB, but a walk in flight stores its result when it
ends, whatever was written meanwhile.  Entries are therefore newer than the last
write exactly as far as no walk that stores has read a table before it.
-/

namespace Udma.Ummu

open Transition (Reaches Throughout always execute exists_of_execute)

/-- A table read of the call is followed by a register write. -/
def Overtaken (trace : List Observation) (serial : Nat) : Prop :=
  ∃ early late, trace = early ++ .written :: late ∧ .tableRead serial ∈ early

/-- An address is not yielded, to a call made after a register write, from table
reads completed before that write. -/
def NotStale (past : List Observation) : Observation → Prop
  | .yielded serial source true _ =>
      ∀ early late request, past = early ++ .written :: late →
        .called serial request ∈ late → .tableRead source ∉ early
  | _ => True

/-- The step ends a walk and stores its result. -/
def State.stores (config : Config) (state : State) : Event → Option Nat
  | .tableRead serial delivery =>
      match state.walks.find? (·.serial == serial) with
      | some walk =>
          match walk.resume delivery with
          | .done (true, _) => if config.iotlbEntries ≠ 0 then some serial else none
          | _ => none
      | none => none
  | _ => none

/-- No walk that stores has read a table before a register write. -/
def Undisturbed (config : Config) (before : State) (event : Event) (_after : State) : Prop :=
  ∀ serial, before.stores config event = some serial → ¬ Overtaken before.trace serial

/-! ## Traces -/

namespace Overtaken

variable {trace : List Observation} {serial : Nat} {observation : Observation}

/-- Only a write overtakes. -/
theorem of_append (overtaken : Overtaken (trace ++ [observation]) serial)
    (other : observation ≠ .written) : Overtaken trace serial := by
  obtain ⟨early, late, shape, read⟩ := overtaken
  rcases List.eq_nil_or_concat late with rfl | ⟨initial, last, rfl⟩
  · obtain ⟨_, same⟩ := List.append_inj' shape rfl
    exact absurd (List.cons.inj same).1 other
  · have longer : trace ++ [observation] = (early ++ .written :: initial) ++ [last] := by
      simpa using shape
    obtain ⟨rfl, _⟩ := List.append_inj' longer rfl
    exact ⟨early, initial, rfl, read⟩

/-- After the first table read of the call, look for a write. -/
theorem iff_mem_dropWhile :
    Overtaken trace serial ↔ .written ∈ trace.dropWhile (· != .tableRead serial) := by
  induction trace with
  | nil => simp [Overtaken]
  | cons head rest inductionHypothesis =>
      by_cases read : head = .tableRead serial
      · subst read
        simp only [bne_self_eq_false, Bool.false_eq_true, not_false_eq_true,
          List.dropWhile_cons_of_neg, List.mem_cons, reduceCtorEq, false_or]
        constructor
        · rintro ⟨early, late, shape, membership⟩
          cases early with
          | nil => cases membership
          | cons first early =>
              obtain ⟨_, rfl⟩ := List.cons.inj shape
              simp
        · intro written
          obtain ⟨early, late, rfl⟩ := List.append_of_mem written
          exact ⟨.tableRead serial :: early, late, rfl, List.mem_cons_self⟩
      · rw [List.dropWhile_cons_of_pos (by simpa using read), ← inductionHypothesis]
        constructor
        · rintro ⟨early, late, shape, membership⟩
          cases early with
          | nil => cases membership
          | cons first early =>
              obtain ⟨rfl, rfl⟩ := List.cons.inj shape
              refine ⟨early, late, rfl, ?_⟩
              exact (List.mem_cons.mp membership).resolve_left (Ne.symm read)
        · rintro ⟨early, late, rfl, membership⟩
          exact ⟨head :: early, late, rfl, List.mem_cons_of_mem _ membership⟩

instance (trace : List Observation) (serial : Nat) : Decidable (Overtaken trace serial) :=
  decidable_of_iff _ iff_mem_dropWhile.symm

end Overtaken

instance (config : Config) (before : State) (event : Event) (after : State) :
    Decidable (Undisturbed config before event after) :=
  match stores : before.stores config event with
  | none => .isTrue (by intro serial other; rw [stores] at other; cases other)
  | some serial =>
      decidable_of_iff (¬ Overtaken before.trace serial)
        (by simp [Undisturbed, stores])

/-- Table reads of a call follow it. -/
def ReadsFollow (past : List Observation) : Observation → Prop
  | .called serial _ => .tableRead serial ∉ past
  | _ => True

/-- The trace so far is free of stale results and no entry is overtaken. -/
structure Coherent (state : State) : Prop where
  booked : state.Booked
  reads : Throughout ReadsFollow state.trace
  current : Throughout NotStale state.trace
  entries : ∀ entry ∈ state.iotlb, ¬ Overtaken state.trace entry.walk

namespace Coherent

variable {before after : State} {config : Config} {request : Request} {serial : Nat}

/-- A walk yields to its own call from reads made after it. -/
theorem own_not_stale {trace : List Observation} (reads : Throughout ReadsFollow trace)
    (ok : Bool) (physical : Nat) : NotStale trace (.yielded serial serial ok physical) := by
  cases ok with
  | false => trivial
  | true =>
      intro early late request shape called read
      obtain ⟨front, back, rfl⟩ := List.append_of_mem called
      have past := reads (early ++ .written :: front) (.called serial request) back
        (by simp [shape])
      exact past (List.mem_append_left _ read)

theorem called (coherent : Coherent before) (request : Request) :
    Coherent (before.called request) where
  booked := coherent.booked.called request
  reads := by
    apply coherent.reads.append_single
    intro read
    exact Nat.lt_irrefl _ (coherent.booked.read_lt _ read)
  current := coherent.current.append_single trivial
  entries := by
    intro entry membership overtaken
    exact coherent.entries entry membership (overtaken.of_append (by intro same; cases same))

theorem resumed (coherent : Coherent before) {walk : Walk} (waiting : walk ∈ before.walks) :
    Coherent (before.resumed walk.serial) where
  booked := coherent.booked.resumed waiting
  reads := coherent.reads.append_single trivial
  current := coherent.current.append_single trivial
  entries := by
    intro entry membership overtaken
    exact coherent.entries entry membership (overtaken.of_append (by intro same; cases same))

theorem conclude (coherent : Coherent before) {ok : Bool} {physical : Nat}
    (known : .called serial request ∈ before.trace)
    (small : ok = true → request.token < Ummu.entries)
    (undisturbed : ok = true → config.iotlbEntries ≠ 0 → ¬ Overtaken before.trace serial) :
    Coherent (before.conclude config serial request ok physical) where
  booked := coherent.booked.conclude known small
  reads := by
    rw [State.conclude_trace]
    exact coherent.reads.append_single trivial
  current := by
    rw [State.conclude_trace]
    exact coherent.current.append_single (own_not_stale coherent.reads ok physical)
  entries := by
    intro entry membership overtaken
    rw [State.conclude_trace] at overtaken
    have earlier := overtaken.of_append (by intro same; cases same)
    rcases State.mem_conclude membership with ⟨stores, enabled, rfl⟩ | old
    · exact undisturbed stores enabled earlier
    · exact coherent.entries entry old earlier

theorem advance (coherent : Coherent before) {script : TableScript}
    (known : .called serial request ∈ before.trace)
    (small : ∀ read resume, script = .ask read resume → request.token < Ummu.entries)
    (succeeds : ∀ physical, script = .done (true, physical) → request.token < Ummu.entries)
    (undisturbed : ∀ physical, script = .done (true, physical) → config.iotlbEntries ≠ 0 →
      ¬ Overtaken before.trace serial) :
    Coherent (before.advance config serial request script) := by
  cases script with
  | done result =>
      obtain ⟨ok, physical⟩ := result
      apply coherent.conclude known
      · rintro rfl
        exact succeeds physical rfl
      · rintro rfl
        exact undisturbed physical rfl
  | ask read resume =>
      exact ⟨coherent.booked.advance known small succeeds, coherent.reads, coherent.current,
        coherent.entries⟩

/-- A hit yields from an entry that no write has overtaken. -/
theorem hit (coherent : Coherent before) {entry : Entry} {physical : Nat}
    (found : before.lookup request.cacheKey = some entry) :
    Coherent ((before.called request).observe
      (.yielded before.calls entry.walk true physical)) where
  booked := by
    apply (coherent.booked.called request).observe
    · intro _ _ same
      cases same
    · intro _ same
      cases same
    · rintro _ _ _ _ ⟨⟩
      exact Nat.lt_succ_self _
  reads := (coherent.called request).reads.append_single trivial
  current := by
    apply (coherent.called request).current.append_single
    intro early late _ shape _ read
    exact (coherent.called request).entries entry (lookup_key found).1
      ⟨early, late, shape, read⟩
  entries := by
    intro other membership overtaken
    exact (coherent.called request).entries other membership
      (overtaken.of_append (by intro same; cases same))

end Coherent

theorem Moved.coherent {config : Config} {before after : State} {event : Event}
    (moved : Moved config before event after) (coherent : Coherent before)
    (undisturbed : Undisturbed config before event after) :
    Coherent after := by
  have booked := moved.booked coherent.booked
  cases moved with
  | hit found => exact coherent.hit found
  | @missed request absent =>
      apply (coherent.called request).advance
      · exact List.mem_append_right _ (List.mem_singleton_self _)
      · intro read resume asks
        exact token_lt_of_walkTables asks
      · intro physical same
        exact absurd same (walkTables_ne_done _ _ _)
      · intro physical same
        exact absurd same (walkTables_ne_done _ _ _)
  | @resumed walk delivery found =>
      have waiting := List.mem_of_find?_eq_some found
      obtain ⟨called, small⟩ := coherent.booked.walk_called walk waiting
      apply (coherent.resumed waiting).advance
      · exact List.mem_append_left _ called
      · exact fun _ _ _ => small
      · exact fun _ _ => small
      · intro physical done enabled overtaken
        have stores : before.stores config (.tableRead walk.serial delivery) =
            some walk.serial := by
          simp [State.stores, found, done, enabled]
        exact undisturbed walk.serial stores (overtaken.of_append (by intro same; cases same))
  | wrote iotlb walks calls trace =>
      refine ⟨booked, ?_, ?_, ?_⟩
      · rw [trace]
        exact coherent.reads.append_single trivial
      · rw [trace]
        exact coherent.current.append_single trivial
      · simp [iotlb]
  | fetched iotlb walks calls trace =>
      refine ⟨booked, ?_, ?_, ?_⟩
      · rw [trace]
        exact coherent.reads
      · rw [trace]
        exact coherent.current
      · rw [iotlb, trace]
        exact coherent.entries

/-- As long as no walk stores over a register write, a call made after a write is
answered from table reads completed after it. -/
theorem invalidation_effective {config : Config} {state : State}
    (reached : Reaches (step config) (Undisturbed config) .initial state) :
    Throughout NotStale state.trace := by
  have coherent : Coherent state := by
    apply reached.invariant
    · exact ⟨State.booked_configured _, .nil, .nil, by simp [State.initial, State.configured]⟩
    · intro before event after coherent taken undisturbed
      exact (step_moved taken).coherent coherent undisturbed
  exact coherent.current

/-- A write between two walks of the same page: the second call reads the tables again. -/
theorem second_walk_not_stale :
    ∃ state, Reaches (step ⟨4096⟩) (Undisturbed ⟨4096⟩) .initial state ∧
      .yielded 1 1 true 0xa000 ∈ state.trace ∧ Throughout NotStale state.trace := by
  let events : List Event := tokenZeroFilled ++
    [.writeMmio ummuOffset 4 0, .translate ⟨0, 0x5000, false, by decide, by decide⟩,
      .tableRead 1 (.words [1, 0x2000, 0, 0, 0, 0, 0, 0]),
      .tableRead 1 (.words [1, 0, 0x3000, 0, 0, 0, 0, 0]),
      .tableRead 1 (.words [0x4003]), .tableRead 1 (.words [0x6003]),
      .tableRead 1 (.words [0x7003]), .tableRead 1 (.words [0xa003])]
  obtain ⟨state, reached, seen⟩ := exists_of_execute
    (show (execute (step ⟨4096⟩) (Undisturbed ⟨4096⟩) events .initial).map
      (fun state => decide (.yielded 1 1 true 0xa000 ∈ state.trace)) = some true by
      decide +kernel)
  exact ⟨state, reached, of_decide_eq_true seen, invalidation_effective reached⟩

/-- The walk of call 0 reads every table but the last, a register is written, and the
walk ends and stores the old page: call 1 is answered from it. -/
theorem write_during_walk_leaves_stale_entry :
    ∃ state, Reaches (step ⟨4096⟩) always .initial state ∧
      ¬ Throughout NotStale state.trace := by
  let events : List Event := tokenZeroFilled.dropLast ++
    [.writeMmio ummuOffset 4 0, .tableRead 0 (.words [0x9003]),
      .translate ⟨0, 0x5010, false, by decide, by decide⟩]
  let call (address : Nat) (bound : address < 2 ^ 64) : Observation :=
    .called 0 ⟨0, address, false, by decide, bound⟩
  let later : Observation := .called 1 ⟨0, 0x5010, false, by decide, by decide⟩
  obtain ⟨state, reached, seen⟩ := exists_of_execute
    (show (execute (step ⟨4096⟩) always events .initial).map State.trace =
      some ([.written, call 0x5000 (by decide), .tableRead 0, .tableRead 0, .tableRead 0,
          .tableRead 0, .tableRead 0] ++
        .written :: [.tableRead 0, .yielded 0 0 true 0x9000, later] ++
        [.yielded 1 0 true 0x9010]) by decide +kernel)
  refine ⟨state, reached, ?_⟩
  intro fresh
  exact fresh _ _ [] seen _ _ _ rfl (show later ∈ _ by simp) (by simp)

end Udma.Ummu
