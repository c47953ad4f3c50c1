import Mathlib

/-!
# Sums over a keyed table

The sum of a weight over the entries of an association list, and how inserting
and erasing one key changes it.
-/

namespace Udma.Collections

universe u v w

variable {Key : Type u} {Value : Type v} [DecidableEq Key]

/-- A key that is present comes first in some order of the entries. -/
theorem entries_perm_of_lookup {table : AList fun _ : Key => Value} {key : Key} {value : Value}
    (found : table.lookup key = some value) :
    table.entries.Perm (⟨key, value⟩ :: (table.erase key).entries) := by
  have fresh : key ∉ table.erase key := by simp
  rw [← AList.entries_insert_of_notMem fresh]
  apply List.lookup_ext table.nodupKeys (AList.insert key value (table.erase key)).nodupKeys
  intro other result
  change result ∈ table.lookup other ↔
    result ∈ (AList.insert key value (table.erase key)).lookup other
  by_cases same : other = key
  · subst same
    rw [AList.lookup_insert, found]
  · rw [AList.lookup_insert_ne same, AList.lookup_erase_ne same]

section Image

variable {Image : Type w} (change : Value → Image) (table : AList fun _ : Key => Value)

/-- The table with every value changed. -/
def mapTable : AList fun _ : Key => Image :=
  ⟨table.entries.map (.map id fun _ => change), .map₂ _ _ table.nodupKeys⟩

@[simp]
theorem lookup_mapTable (key : Key) :
    (mapTable change table).lookup key = (table.lookup key).map change :=
  List.dlookup_map₂ key

end Image

section Total

variable {Weight : Type w} [AddCommMonoid Weight] (weight : Value → Weight)
  (table : AList fun _ : Key => Value)

/-- The sum of `weight` over the values of the table. -/
def tableTotal : Weight := (table.entries.map fun entry => weight entry.2).sum

omit [DecidableEq Key] in
@[simp]
theorem tableTotal_empty : tableTotal weight (∅ : AList fun _ : Key => Value) = 0 := rfl

theorem tableTotal_insert (key : Key) (value : Value) :
    tableTotal weight (table.insert key value) = weight value + tableTotal weight (table.erase key) := by
  unfold tableTotal
  rw [AList.entries_insert, List.map_cons, List.sum_cons]
  rfl

omit [DecidableEq Key] in
theorem map_tableTotal {Other : Type w} [AddCommMonoid Other] (image : Weight →+ Other) :
    image (tableTotal weight table) = tableTotal (fun value => image (weight value)) table := by
  unfold tableTotal
  rw [map_list_sum, List.map_map]
  rfl

variable {table}

theorem tableTotal_of_lookup {key : Key} {value : Value} (found : table.lookup key = some value) :
    tableTotal weight table = weight value + tableTotal weight (table.erase key) := by
  unfold tableTotal
  rw [((entries_perm_of_lookup found).map fun entry => weight entry.2).sum_eq, List.map_cons,
    List.sum_cons]

theorem tableTotal_erase_of_none {key : Key} (missing : table.lookup key = none) :
    tableTotal weight (table.erase key) = tableTotal weight table := by
  have absent : key ∉ table.keys := by
    rwa [← AList.mem_keys, ← AList.lookup_eq_none]
  unfold tableTotal
  rw [show (table.erase key).entries = table.entries from List.kerase_of_notMem_keys absent]

end Total

section Membership

variable {Item : Type w} {Source : Type u} {item : Item}

theorem mem_sum_map {weight : Source → Multiset Item} {list : List Source} :
    item ∈ (list.map weight).sum ↔ ∃ source ∈ list, item ∈ weight source := by
  induction list with
  | nil => simp
  | cons head rest inductionHypothesis =>
      rw [List.map_cons, List.sum_cons, Multiset.mem_add, inductionHypothesis]
      simp

omit [DecidableEq Key] in
theorem mem_tableTotal {weight : Value → Multiset Item} {table : AList fun _ : Key => Value} :
    item ∈ tableTotal weight table ↔ ∃ entry ∈ table.entries, item ∈ weight entry.2 :=
  mem_sum_map

end Membership

end Udma.Collections
