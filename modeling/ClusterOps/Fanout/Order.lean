import ClusterOps.Fanout

/-
A listing in many partitions whose events come in any order. What the workers have
to do by themselves they do in the order in which it was put off: first each begins,
then come those that were given a slot, as they were given it. What a worker waits
for in a page call can come before or after anything else, as soon as all have begun,
and any time can pass before something happens.
-/

namespace ClusterOps.Fanout

open Listing

variable {σ ι α ρ : Type}

/-- A page call that was made: by which worker, in which partition, and for which token. -/
structure Query (ι : Type) where
  worker : Nat
  partition : ι
  token : Value

/-- Whether it is the call for a first page. -/
def Query.isFirst (q : Query ι) : Bool := q.token = firstToken

/-- The page calls, each of them noted when it is made. -/
def Calls.noted (calls : Calls σ ι α ρ) : Calls (σ × List (Query ι)) ι α ρ where
  ask world now k p token :=
    let (reply, next) := calls.ask world.1 now k p token
    (reply, (next, world.2 ++ [⟨k, p, token⟩]))
  resume world now k p rest :=
    let (reply, next) := calls.resume world.1 now k p rest
    (reply, (next, world.2))
  waits := calls.waits

namespace Phase

/-- A worker in the phase has not begun. -/
def isFresh : Phase α ρ → Bool
  | .fresh => true
  | _ => false

/-- A worker in the phase has made its first page call and is not at its end. -/
def isListing : Phase α ρ → Bool
  | .listing _ _ _ => true
  | _ => false

end Phase

namespace State

/-- Whether an event is the turn of a worker in such a phase. -/
def isTurn (s : State σ α ρ) (p : Phase α ρ → Bool) (e : Event) : Bool :=
  match e.signal with
  | .turn k => s.phases[k]?.any p
  | _ => false

/-- Whether an event is what a worker waits for in its page call. -/
def isAnswer (s : State σ α ρ) (e : Event) : Bool := s.isTurn Phase.isListing e

/-- Whether with an event a worker begins. -/
def isBeginning (s : State σ α ρ) (e : Event) : Bool := s.isTurn Phase.isFresh e

/-- Makes an event the next one, at some time. -/
def bring (s : State σ α ρ) (t : Rat) (before : List Event) (e : Event) (after : List Event) :
    State σ α ρ :=
  { s with events := ⟨t, e.signal⟩ :: (before ++ after) }

/-- What comes first by itself need not be brought. -/
theorem bring_first {s : State σ α ρ} {e : Event} {rest : List Event} (h : s.events = e :: rest) :
    s.bring e.due [] e rest = s := by
  show { s with events := e :: rest } = s
  rw [← h]

end State

/-- What can happen next: something that has to be done, if only answers stand before it; or an
answer comes, when all workers have begun. -/
inductive Step (calls : Calls σ ι α ρ) (clock : Clock) (partitions : List ι) :
    State σ α ρ → State σ α ρ → Prop
  | turn {s before e after t} : s.events = before ++ e :: after → s.isAnswer e = false →
      (∀ f ∈ before, s.isAnswer f = true) → s.now ≤ t →
      Step calls clock partitions s (step calls clock partitions (s.bring t before e after))
  | answer {s before e after t} : s.events = before ++ e :: after → s.isAnswer e = true →
      (∀ f ∈ s.events, s.isBeginning f = false) → s.now ≤ t →
      Step calls clock partitions s (step calls clock partitions (s.bring t before e after))

/-- The states to which a run can come, each with the number of steps to it. -/
inductive Reaches (calls : Calls σ ι α ρ) (clock : Clock) (width : Option Nat)
    (partitions : List ι) (world : σ) (now : Rat) : Nat → State σ α ρ → Prop
  | start : Reaches calls clock width partitions world now 0 (start width partitions world now)
  | step {n s s'} : Reaches calls clock width partitions world now n s →
      Step calls clock partitions s s' →
      Reaches calls clock width partitions world now (n + 1) s'

end ClusterOps.Fanout
