import ClusterOps.Wait

/-
Several waits at once. They share nothing but the time: each has a source of its
own for its answers. Those to which something happens first go on next; where
something happens to several at the same time, any of them can go on before the
others.
-/

namespace ClusterOps.Wait

variable {σ : Type}

/-- The time at which something next happens to a wait, if it is not over. -/
def State.due? (s : State σ) : Option Rat :=
  match s.phase with
  | .over _ => none
  | .resting _ wake => some wake
  | .asking _ due arrival _ => some (arrival.elim due (Clock.least due))

/-- A wait among others: what it waits for, what answers its calls, and where it stands. -/
structure Member (σ : Type) where
  wait : Wait
  poll : σ → Rat → Call × σ
  state : State σ

namespace Member

/-- A wait that begins. -/
def begin (clock : Clock) (w : Wait) (poll : σ → Rat → Call × σ) (source : σ) (now : Rat) :
    Member σ :=
  ⟨w, poll, w.begin clock source now⟩

/-- A wait that goes on. -/
def step (clock : Clock) (m : Member σ) : Member σ :=
  { m with state := m.wait.step clock m.poll m.state }

/-- A wait goes on to a state of the same wait. -/
@[simp] theorem wait_step (clock : Clock) (m : Member σ) : (m.step clock).wait = m.wait := rfl

end Member

/-- Waits that were started together. -/
abbrev Family (σ : Type) := List (Member σ)

namespace Family

/-- The times at which something next happens, one for each wait that is not over. -/
def dues (f : Family σ) : List Rat := f.filterMap fun m => m.state.due?

/-- One wait goes on to which something happens no later than to any other. -/
inductive Step (clock : Clock) : Family σ → Family σ → Prop
  | of (before : Family σ) (m : Member σ) (after : Family σ) (t : Rat)
      (due : m.state.due? = some t) (first : ∀ u ∈ dues (before ++ m :: after), t ≤ u) :
      Step clock (before ++ m :: after) (before ++ m.step clock :: after)

/-- The first of the waits that are due at a time goes on. -/
def stepAt (clock : Clock) (t : Rat) : Family σ → Family σ
  | [] => []
  | m :: rest =>
    if m.state.due? = some t then m.step clock :: rest else m :: stepAt clock t rest

/-- Steps until all waits are over, at most so many. -/
def steps (clock : Clock) : Nat → Family σ → Family σ
  | 0, f => f
  | fuel + 1, f =>
    match f.dues.min? with
    | none => f
    | some t => steps clock fuel (f.stepAt clock t)

/-- The waits at their ends. -/
def run (clock : Clock) (f : Family σ) : Family σ :=
  f.steps clock (f.foldl (fun n m => n + m.wait.bound) 0)

end Family

end ClusterOps.Wait
