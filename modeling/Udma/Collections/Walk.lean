import Mathlib

/-!
# Walks of a map

The entries of a hash map come in an order that depends on how the map was filled.  Whatever the
order is, a map that is filled with the entries again is the same map.
-/

namespace Udma.Collections

universe u v

variable {Key : Type u} {Value : Type v}

abbrev asSigma (entry : Key × Value) : Sigma fun _ : Key => Value := ⟨entry.1, entry.2⟩

/-- The entries of the map, in some order. -/
def Walks (entries : List (Key × Value)) (map : Finmap fun _ : Key => Value) : Prop :=
  map.entries = (entries.map asSigma : List (Sigma fun _ : Key => Value))

theorem exists_walks (map : Finmap fun _ : Key => Value) : ∃ entries, Walks entries map := by
  obtain ⟨listed, same⟩ := Quot.exists_rep map.entries
  refine ⟨listed.map fun entry => (entry.1, entry.2), ?_⟩
  unfold Walks
  rw [List.map_map, ← same]
  exact congrArg _ (List.map_id listed).symm

namespace Walks

variable {entries : List (Key × Value)} {map : Finmap fun _ : Key => Value}

theorem nodup (walks : Walks entries map) : (entries.map Prod.fst).Nodup := by
  have keys := map.nodupKeys
  rw [walks, Multiset.coe_nodupKeys, List.NodupKeys, List.keys, List.map_map] at keys
  exact keys

theorem length (walks : Walks entries map) : entries.length = map.keys.card := by
  have size := congrArg Multiset.card walks
  rw [Multiset.coe_card, List.length_map] at size
  rw [← size]
  exact (Multiset.card_map _ _).symm

variable [DecidableEq Key]

theorem lookup (walks : Walks entries map) {key : Key} {value : Value} :
    map.lookup key = some value ↔ (key, value) ∈ entries := by
  rw [Finmap.lookup_eq_some_iff, walks, Multiset.mem_coe, List.mem_map]
  constructor
  · rintro ⟨entry, listed, same⟩
    obtain ⟨rfl, here⟩ := Sigma.mk.inj same
    obtain rfl := eq_of_heq here
    exact listed
  · intro listed
    exact ⟨_, listed, rfl⟩

end Walks

variable [DecidableEq Key]

/-- A key that is there already stays as it is. -/
def emplaceEntry (map : Finmap fun _ : Key => Value) (entry : Key × Value) :
    Finmap fun _ : Key => Value :=
  if entry.1 ∈ map then map else map.insert entry.1 entry.2

def emplaceAll (entries : List (Key × Value)) : Finmap fun _ : Key => Value :=
  entries.foldl emplaceEntry ∅

theorem entries_foldl_emplaceEntry {added : List (Key × Value)}
    {map : Finmap fun _ : Key => Value} (nodup : (added.map Prod.fst).Nodup)
    (fresh : ∀ entry ∈ added, entry.1 ∉ map) :
    (added.foldl emplaceEntry map).entries =
      (added.map asSigma : List (Sigma fun _ : Key => Value)) + map.entries := by
  induction added generalizing map with
  | nil => exact (zero_add _).symm
  | cons entry added inductionHypothesis =>
      rw [List.map_cons, List.nodup_cons] at nodup
      have absent := fresh entry List.mem_cons_self
      rw [List.foldl_cons, emplaceEntry, if_neg absent, inductionHypothesis nodup.2,
        Finmap.entries_insert_of_notMem absent, List.map_cons, ← Multiset.cons_coe,
        Multiset.add_cons, Multiset.cons_add]
      intro other listed present
      rcases Finmap.mem_insert.mp present with same | old
      · exact nodup.1 (same ▸ List.mem_map_of_mem listed)
      · exact fresh other (List.mem_cons_of_mem _ listed) old

theorem walks_emplaceAll {entries : List (Key × Value)} (nodup : (entries.map Prod.fst).Nodup) :
    Walks entries (emplaceAll entries) :=
  (entries_foldl_emplaceEntry nodup fun _ _ => Finmap.notMem_empty).trans (add_zero _)

/-- A map is restored from its entries, in whatever order they come. -/
theorem Walks.emplaceAll_eq {entries : List (Key × Value)} {map : Finmap fun _ : Key => Value}
    (walks : Walks entries map) : emplaceAll entries = map :=
  Finmap.ext ((walks_emplaceAll walks.nodup).trans walks.symm)

end Udma.Collections
