import ClusterOps.Number.Binary64

/-
Time. A time is a number of seconds since a run began, and it moves only while
everything waits. What is added to or taken from a time is rounded by the clock:
not at all by the exact one, to double precision by the one that programs run
on.
-/

namespace ClusterOps

/-- How a clock rounds the times that it computes. -/
structure Clock where
  round : Rat → Rat

namespace Clock

/-- The clock that does not round. -/
def exact : Clock := ⟨id⟩

/-- The clock with double precision. -/
def binary64 : Clock := ⟨Binary64.round⟩

/-- The time some seconds later. -/
def later (c : Clock) (now span : Rat) : Rat := c.round (now + span)

/-- The seconds from one time to another. -/
def span (c : Clock) (start stop : Rat) : Rat := c.round (stop - start)

/-- The smaller of two times or spans. -/
def least (a b : Rat) : Rat := if a ≤ b then a else b

/-- The larger of two times or spans. -/
def greatest (a b : Rat) : Rat := if a ≤ b then b else a

/-- The exact clock adds. -/
@[simp] theorem later_exact (now span : Rat) : exact.later now span = now + span := rfl

/-- The exact clock subtracts. -/
@[simp] theorem span_exact (start stop : Rat) : exact.span start stop = stop - start := rfl

end Clock

end ClusterOps
