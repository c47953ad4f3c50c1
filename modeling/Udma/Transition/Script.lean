import Mathlib

/-!
# Computations that wait for answers

A computation that asks its environment a sequence of queries, each of which may
depend on the answers to the ones before, and then returns.  `answer` runs it
against an environment that answers as a fixed function does.
-/

namespace Udma.Transition

universe u

/-- A resumption: a result, or a query with what is done with its answer. -/
inductive Script (Query Reply : Type u) (Result : Type u) where
  | done (result : Result)
  | ask (query : Query) (resume : Reply → Script Query Reply Result)

namespace Script

variable {Query Reply Result Next : Type u}

def bind : Script Query Reply Result → (Result → Script Query Reply Next) →
    Script Query Reply Next
  | .done result, next => next result
  | .ask query resume, next => .ask query fun reply => (resume reply).bind next

instance : Monad (Script Query Reply) where
  pure := .done
  bind := Script.bind

/-- Ask one query and return its answer. -/
def call (query : Query) : Script Query Reply Reply := .ask query .done

/-- The result against an environment that answers as `oracle` does. -/
def answer (oracle : Query → Reply) : Script Query Reply Result → Result
  | .done result => result
  | .ask query resume => (resume (oracle query)).answer oracle

variable (oracle : Query → Reply)

@[simp]
theorem answer_pure (result : Result) :
    (pure result : Script Query Reply Result).answer oracle = result := rfl

@[simp]
theorem answer_call (query : Query) :
    (call query : Script Query Reply Reply).answer oracle = oracle query := rfl

@[simp]
theorem answer_bind (first : Script Query Reply Result)
    (next : Result → Script Query Reply Next) :
    (first >>= next).answer oracle = (next (first.answer oracle)).answer oracle := by
  induction first with
  | done result => rfl
  | ask query resume inductionHypothesis => exact inductionHypothesis (oracle query)

@[simp]
theorem answer_ite {test : Prop} [Decidable test] (left right : Script Query Reply Result) :
    (if test then left else right).answer oracle =
      if test then left.answer oracle else right.answer oracle := by
  split <;> rfl

end Script

end Udma.Transition
