import ClusterOps.Clock
import ClusterOps.Log
import ClusterOps.Outcome

/-
What runs against a world and takes time. A session has the time, the world as
it is then, and what was logged; an operation takes it from one state to the
next, and ends in one of the ways of `Outcome`. After an operation that does not
end with a value nothing follows.
-/

namespace ClusterOps

/-- The time, the world, and the records written so far. -/
structure Session (W : Type) where
  now : Rat
  world : W
  log : List Record
deriving Repr, Inhabited

/-- An operation. -/
def Op (W α : Type) : Type := Session W → Outcome α × Session W

namespace Op

variable {W α β : Type}

/-- The operation that does nothing. -/
def done (a : α) : Op W α := fun s => (.done a, s)

/-- One operation, and with its value the next. -/
def andThen (x : Op W α) (f : α → Op W β) : Op W β := fun s =>
  match x s with
  | (.done a, s) => f a s
  | (.failed c, s) => (.failed c, s)
  | (.cancelled, s) => (.cancelled, s)
  | (.hung, s) => (.hung, s)

instance : Monad (Op W) where
  pure := done
  bind := andThen

/-- The operation that ends in a given way. -/
def ends (o : Outcome α) : Op W α := fun s => (o, s)

/-- The operation that fails. -/
def fail (c : Cause) : Op W α := ends (.failed c)

/-- A calculation that can fail. -/
def ofExcept (e : Except Cause α) : Op W α := ends (.ofExcept e)

/-- An operation some of whose failures are values. -/
def caught (isCaught : Cause → Bool) (x : Op W α) : Op W (Except Cause α) := fun s =>
  match x s with
  | (.done a, s) => (.done (.ok a), s)
  | (.failed c, s) => if isCaught c then (.done (.error c), s) else (.failed c, s)
  | (.cancelled, s) => (.cancelled, s)
  | (.hung, s) => (.hung, s)

/-- Writes a record. -/
def record (level : Level) (source : Source) (message : String)
    (fields : List (String × Value)) : Op W Unit := fun s =>
  (.done (), { s with log := s.log ++ [⟨s.now, level, source, message, fields, none⟩] })

/-- Waits for so many seconds, or for ever. -/
def rest (clock : Clock) : Option Rat → Op W Unit
  | none => ends .hung
  | some d => fun s => (.done (), { s with now := if d = 0 then s.now else clock.later s.now d })

/-- Doing nothing and then something is doing that thing. -/
@[simp] theorem pure_bind (a : α) (f : α → Op W β) : (pure a >>= f) = f a := rfl

/-- A failure ends an operation. -/
@[simp] theorem fail_bind (c : Cause) (f : α → Op W β) : (fail c >>= f) = fail c := rfl

end Op

end ClusterOps
