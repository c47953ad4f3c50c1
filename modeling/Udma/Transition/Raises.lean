import Mathlib

/-!
# Computations that raise

Which exceptions a computation in `Except` can end with, and what its parts have returned
when it returns.
-/

namespace Udma.Transition

universe u v w

variable {Error : Type u} {Value : Type v} {Result : Type v} {allowed : Error → Prop}

/-- Every exception of the computation is an allowed one. -/
def Raises (allowed : Error → Prop) (computation : Except Error Value) : Prop :=
  ∀ error, computation = .error error → allowed error

def raiseIf (condition : Prop) [Decidable condition] (error : Error) : Except Error Unit :=
  if condition then .error error else .ok ()

@[simp]
theorem raiseIf_eq_ok {condition : Prop} [Decidable condition] {error : Error} {value : Unit} :
    raiseIf condition error = .ok value ↔ ¬ condition := by
  unfold raiseIf
  by_cases holds : condition
  · simp [holds]
  · simp [holds]

theorem bind_eq_ok {first : Except Error Value} {rest : Value → Except Error Result}
    {result : Result} :
    (first >>= rest) = .ok result ↔ ∃ value, first = .ok value ∧ rest value = .ok result := by
  cases first with
  | error error => simp [bind, Except.bind]
  | ok value => simp [bind, Except.bind]

namespace Raises

theorem ok (value : Value) : Raises allowed (.ok value) := by
  intro error raised
  cases raised

theorem pure (value : Value) : Raises allowed (Pure.pure value) := ok value

theorem error {error : Error} (admitted : allowed error) :
    Raises allowed (.error error : Except Error Value) := by
  rintro _ ⟨⟩
  exact admitted

theorem raiseIf {condition : Prop} [Decidable condition] {error : Error}
    (admitted : allowed error) : Raises allowed (raiseIf condition error) := by
  unfold Transition.raiseIf
  by_cases holds : condition
  · rw [if_pos holds]
    exact .error admitted
  · rw [if_neg holds]
    exact .ok ()

theorem of_exists {computation : Except Error Value} (returns : ∃ value, computation = .ok value) :
    Raises allowed computation := by
  obtain ⟨value, rfl⟩ := returns
  exact .ok value

/-- The rest of a computation is only looked at behind what came first. -/
theorem bind {first : Except Error Value} {rest : Value → Except Error Result}
    (before : Raises allowed first)
    (after : ∀ value, first = .ok value → Raises allowed (rest value)) :
    Raises allowed (first >>= rest) := by
  cases returned : first with
  | error error => exact .error (before error returned)
  | ok value => exact after value returned

theorem bind_iff {first : Except Error Value} {rest : Value → Except Error Result} :
    Raises allowed (first >>= rest) ↔
      Raises allowed first ∧ ∀ value, first = .ok value → Raises allowed (rest value) := by
  refine ⟨fun raises => ⟨fun error ended => raises error ?_, ?_⟩,
    fun parts => bind parts.1 parts.2⟩
  · rw [ended]
    rfl
  · rintro value rfl
    exact raises

theorem ite {condition : Prop} [Decidable condition] {first second : Except Error Value}
    (one : condition → Raises allowed first) (two : ¬ condition → Raises allowed second) :
    Raises allowed (if condition then first else second) := by
  by_cases holds : condition
  · rw [if_pos holds]
    exact one holds
  · rw [if_neg holds]
    exact two holds

/-- It returns, or ends with an allowed exception. -/
theorem cases {computation : Except Error Value} (raises : Raises allowed computation) :
    (∃ value, computation = .ok value) ∨ ∃ error, computation = .error error ∧ allowed error := by
  cases ended : computation with
  | ok value => exact .inl ⟨value, rfl⟩
  | error error => exact .inr ⟨error, rfl, raises error ended⟩

end Raises

end Udma.Transition
