import ClusterOps.Cause

/-
How an activity ends. It can end with a value or with a failure, it can be
cancelled, which is not a failure and which nothing that handles failures stops,
or it never ends at all.
-/

namespace ClusterOps

/-- How an activity ends. -/
inductive Outcome (α : Type) where
  | done (a : α)
  | failed (c : Cause)
  | cancelled
  | hung
deriving DecidableEq, Repr, Inhabited

namespace Outcome

variable {α β : Type}

/-- The outcome with its value changed. -/
def map (f : α → β) : Outcome α → Outcome β
  | .done a => .done (f a)
  | .failed c => .failed c
  | .cancelled => .cancelled
  | .hung => .hung

/-- The outcome of a calculation that can fail. -/
def ofExcept : Except Cause α → Outcome α
  | .ok a => .done a
  | .error c => .failed c

/-- The value, if there is one. -/
def value? : Outcome α → Option α
  | .done a => some a
  | _ => none

/-- The failure, if there is one. -/
def failure? : Outcome α → Option Cause
  | .failed c => some c
  | _ => none

/-- Changing a value keeps the failure. -/
@[simp] theorem failure?_map (f : α → β) (o : Outcome α) : (o.map f).failure? = o.failure? := by
  cases o <;> rfl

end Outcome

end ClusterOps
