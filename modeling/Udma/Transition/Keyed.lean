import Mathlib

/-!
# Tables of independent machines

A table holds one machine for each key, each item of the input is for one of them,
and any of them may fail.  The table fails only when one of its machines does, and
each machine sees its own items alone.
-/

namespace Udma.Transition

universe u

variable {Key Entry Item Output : Type u} [DecidableEq Key]

/-- One machine: the entry and the outputs of an item, or a failure. -/
abbrev EntryStep (Entry Item Output : Type u) :=
  Option Entry → Item → Option (Option Entry × List Output)

def entryRun (step : EntryStep Entry Item Output) :
    List Item → Option Entry → Option (Option Entry × List Output)
  | [], entry => some (entry, [])
  | item :: items, entry =>
      match step entry item with
      | none => none
      | some (next, outputs) =>
          (entryRun step items next).map fun result => (result.1, outputs ++ result.2)

def keyedRun (key : Item → Key) (step : EntryStep Entry Item Output) :
    List Item → (Key → Option Entry) → Option ((Key → Option Entry) × List (Key × Output))
  | [], table => some (table, [])
  | item :: items, table =>
      match step (table (key item)) item with
      | none => none
      | some (next, outputs) =>
          (keyedRun key step items (Function.update table (key item) next)).map fun result =>
            (result.1, outputs.map (fun output => (key item, output)) ++ result.2)

/-- The items for one key. -/
def itemsOf (key : Item → Key) (which : Key) (items : List Item) : List Item :=
  items.filter fun item => decide (key item = which)

/-- The outputs for one key. -/
def outputsOf (which : Key) (outputs : List (Key × Output)) : List Output :=
  outputs.filterMap fun output => if output.1 = which then some output.2 else none

variable {key : Item → Key} {step : EntryStep Entry Item Output}

theorem outputsOf_map (which other : Key) (outputs : List Output) :
    outputsOf which (outputs.map fun output => (other, output)) =
      if other = which then outputs else [] := by
  unfold outputsOf
  rw [List.filterMap_map]
  by_cases same : other = which
  · rw [if_pos same]
    simp [same]
  · rw [if_neg same]
    simp [same]

/-- A machine that succeeds on the whole input succeeds on its beginning. -/
theorem entryRun_of_append {first second : List Item} {entry : Option Entry}
    {result : Option Entry × List Output}
    (ran : entryRun step (first ++ second) entry = some result) :
    ∃ earlier, entryRun step first entry = some earlier := by
  induction first generalizing entry result with
  | nil => exact ⟨(entry, []), rfl⟩
  | cons item items inductionHypothesis =>
      rw [List.cons_append] at ran
      unfold entryRun at ran ⊢
      split at ran
      next => simp at ran
      next next outputs stepped =>
        obtain ⟨later, ran', _⟩ := Option.map_eq_some_iff.mp ran
        obtain ⟨earlier, before⟩ := inductionHypothesis ran'
        exact ⟨(earlier.1, outputs ++ earlier.2), by rw [before]; rfl⟩

theorem entryRun_append {first second : List Item} {entry middle : Option Entry}
    {outputs : List Output} (ran : entryRun step first entry = some (middle, outputs)) :
    entryRun step (first ++ second) entry =
      (entryRun step second middle).map fun result => (result.1, outputs ++ result.2) := by
  induction first generalizing entry outputs with
  | nil =>
      simp only [entryRun, Option.some.injEq, Prod.mk.injEq] at ran
      obtain ⟨rfl, rfl⟩ := ran
      simp
  | cons item items inductionHypothesis =>
      unfold entryRun at ran
      split at ran
      next => simp at ran
      next next produced stepped =>
        obtain ⟨later, ran', same⟩ := Option.map_eq_some_iff.mp ran
        obtain ⟨rfl, rfl⟩ := Prod.mk.injEq .. |>.mp same
        rw [List.cons_append, entryRun, stepped]
        dsimp only
        rw [inductionHypothesis ran', Option.map_map]
        congr 1
        funext result
        simp

/-- Machines that agree on the items run alike. -/
theorem entryRun_congr {other : EntryStep Entry Item Output} {items : List Item}
    (same : ∀ item ∈ items, ∀ entry, step entry item = other entry item)
    {entry : Option Entry} : entryRun step items entry = entryRun other items entry := by
  induction items generalizing entry with
  | nil => rfl
  | cons item items inductionHypothesis =>
      unfold entryRun
      rw [same item (by simp) entry]
      split
      next => rfl
      next next outputs stepped =>
        rw [inductionHypothesis fun later known => same later (by simp [known])]

/-- A machine that ends without an entry after each block succeeds on the beginning of any
sequence of blocks. -/
theorem entryRun_of_blocks {blocks : List (List Item)}
    (closed : ∀ block ∈ blocks, ∃ outputs, entryRun step block none = some (none, outputs))
    {items : List Item} (beginning : items <+: blocks.flatten) :
    ∃ result, entryRun step items none = some result := by
  have whole : ∃ outputs, entryRun step blocks.flatten none = some (none, outputs) := by
    clear beginning
    induction blocks with
    | nil => exact ⟨[], rfl⟩
    | cons block blocks inductionHypothesis =>
        obtain ⟨first, ran⟩ := closed block (by simp)
        obtain ⟨second, later⟩ := inductionHypothesis fun other known => closed other (by simp [known])
        refine ⟨first ++ second, ?_⟩
        rw [List.flatten_cons, entryRun_append ran, later]
        rfl
  obtain ⟨rest, split⟩ := beginning
  obtain ⟨outputs, ran⟩ := whole
  rw [← split] at ran
  exact entryRun_of_append ran

/-- When every machine succeeds on its own items, so does the table, and for each key it ends
as the machine does, with the outputs of the machine. -/
theorem keyedRun_of_entries {items : List Item} {table : Key → Option Entry}
    (entries : ∀ which, ∃ result, entryRun step (itemsOf key which items) (table which) =
      some result) :
    ∃ final outputs, keyedRun key step items table = some (final, outputs) ∧
      ∀ which, entryRun step (itemsOf key which items) (table which) =
        some (final which, outputsOf which outputs) := by
  induction items generalizing table with
  | nil => exact ⟨table, [], rfl, fun which => rfl⟩
  | cons item items inductionHypothesis =>
      have own : itemsOf key (key item) (item :: items) = item :: itemsOf key (key item) items := by
        simp [itemsOf]
      have other : ∀ which, key item ≠ which →
          itemsOf key which (item :: items) = itemsOf key which items := by
        intro which different
        simp [itemsOf, different]
      obtain ⟨result, ran⟩ := entries (key item)
      rw [own] at ran
      unfold entryRun at ran
      split at ran
      next => simp at ran
      next next produced stepped =>
        obtain ⟨later, rest, _⟩ := Option.map_eq_some_iff.mp ran
        obtain ⟨final, outputs, whole, each⟩ :=
            @inductionHypothesis (Function.update table (key item) next) (by
          intro which
          by_cases same : key item = which
          · subst same
            exact ⟨later, by rw [Function.update_self]; exact rest⟩
          · obtain ⟨old, before⟩ := entries which
            rw [other which same] at before
            exact ⟨old, by rw [Function.update_of_ne (Ne.symm same)]; exact before⟩)
        refine ⟨final, produced.map (fun output => (key item, output)) ++ outputs, ?_, ?_⟩
        · unfold keyedRun
          rw [stepped]
          dsimp only
          rw [whole]
          rfl
        · intro which
          have split : outputsOf which (produced.map (fun output => (key item, output)) ++ outputs)
              = (if key item = which then produced else []) ++ outputsOf which outputs := by
            rw [← outputsOf_map]
            exact List.filterMap_append
          rw [split]
          by_cases same : key item = which
          · subst same
            have after := each (key item)
            rw [Function.update_self] at after
            rw [own, if_pos rfl]
            unfold entryRun
            rw [stepped]
            dsimp only
            rw [after]
            rfl
          · have after := each which
            rw [Function.update_of_ne (Ne.symm same)] at after
            rw [other which same, if_neg same, List.nil_append]
            exact after

end Udma.Transition
