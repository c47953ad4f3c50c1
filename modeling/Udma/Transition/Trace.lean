import Mathlib

/-!
# Properties of every point of a trace

A trace grows at its end.  `Throughout` says that each of its elements stands in
a given relation to the part of the trace before it.
-/

namespace Udma.Transition

universe u

variable {Item : Type u} {Holds : List Item → Item → Prop}

def Throughout (Holds : List Item → Item → Prop) (trace : List Item) : Prop :=
  ∀ before item after, trace = before ++ item :: after → Holds before item

namespace Throughout

theorem nil : Throughout Holds [] := by
  intro before item after shape
  simp at shape

theorem append_single {trace : List Item} {item : Item} (old : Throughout Holds trace)
    (new : Holds trace item) : Throughout Holds (trace ++ [item]) := by
  intro before other after shape
  rcases List.eq_nil_or_concat after with rfl | ⟨initial, last, rfl⟩
  · obtain ⟨rfl, same⟩ := List.append_inj' shape rfl
    obtain rfl : item = other := by simpa using same
    exact new
  · have longer : trace ++ [item] = (before ++ other :: initial) ++ [last] := by
      simpa using shape
    obtain ⟨prefixes, _⟩ := List.append_inj' longer rfl
    exact old before other initial prefixes

/-- Elements whose property does not depend on the past. -/
theorem append {trace added : List Item} (old : Throughout Holds trace)
    (new : ∀ item ∈ added, ∀ before, Holds before item) :
    Throughout Holds (trace ++ added) := by
  induction added generalizing trace with
  | nil => simpa using old
  | cons item rest inductionHypothesis =>
      have extended := old.append_single (new item (by simp) trace)
      have := inductionHypothesis extended fun other membership =>
        new other (by simp [membership])
      simpa using this

end Throughout

end Udma.Transition
