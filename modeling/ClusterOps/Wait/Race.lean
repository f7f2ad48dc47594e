import ClusterOps.Wait

/-
A wait with what goes on beside it. Its rest goes on in the wait itself; a call for
the status and the timer for the deadline are begun together and go on by
themselves. The wait goes on as soon as one of the two is over. It then stops the
other, waits for it to end, and only then looks at the answer; a call that had to be
stopped has none. A wait can be cancelled from outside whatever it is waiting for,
and then stops all that goes on and waits for it to end before it ends itself.

What goes on ends at its time, or at once when it is stopped. Time passes only while
nothing can happen without: all that is due at a time is over before the wait goes
on.
-/

namespace ClusterOps.Wait

/-- What goes on for a wait: its rest, a call for the status, or the timer for the deadline. -/
inductive Kind where
  | rest
  | call
  | timer
deriving DecidableEq, Repr

/-- Something that goes on or went on: since when, when it ends by itself, if ever, whether it has
been stopped, and when it ended. -/
structure Activity where
  kind : Kind
  since : Rat
  due : Option Rat
  stopped : Bool
  ended : Option Rat
deriving DecidableEq, Repr

namespace Activity

/-- Something that begins. -/
def begun (kind : Kind) (since : Rat) (due : Option Rat) : Activity :=
  ⟨kind, since, due, false, none⟩

/-- Asks something to stop. -/
def stop (a : Activity) : Activity := { a with stopped := true }

/-- Something that is over. -/
def endedAt (t : Rat) (a : Activity) : Activity := { a with ended := some t }

/-- Whether it is a call for the status. -/
def isCall (a : Activity) : Bool := a.kind = .call

end Activity

/-- Where a wait stands: it waits for its rest, or for a call or its timer, or for what it has
stopped, with the answer to the call if it has one; likewise after it was cancelled; or it is over,
without a result if it was cancelled. -/
inductive Stage where
  | resting
  | asking (report : Report)
  | closing (answer : Option Report)
  | leaving
  | ended (result : Option Result)
deriving DecidableEq, Repr

/-- A wait and what goes on and went on beside it. -/
structure Race (σ : Type) where
  now : Rat
  start : Rat
  deadline : Rat
  source : σ
  stage : Stage
  rounds : Nat
  live : List Activity
  past : List Activity
deriving DecidableEq, Repr

namespace Race

variable {σ : Type}

/-- The calls made so far, each with the times at which it began and ended. -/
def calls (s : Race σ) : List (Rat × Option Rat) :=
  ((s.past ++ s.live).filter Activity.isCall).map fun a => (a.since, a.ended)

/-- Ends the wait. -/
def finish (s : Race σ) (r : Result) : Race σ := { s with stage := .ended (some r) }

/-- Stops all that goes on, to wait for it. -/
def close (s : Race σ) (stage : Stage) : Race σ :=
  { s with stage := stage, live := s.live.map Activity.stop }

/-- Ends the wait because its time is over. -/
def timeOut (w : Wait) (clock : Clock) (s : Race σ) : Race σ :=
  s.finish (.failed (.operationTimeout w.resource (clock.span s.start s.now)))

/-- Begins a round with a rest, if there is time left. -/
def enterRound (w : Wait) (clock : Clock) (s : Race σ) : Race σ :=
  let s := { s with rounds := s.rounds + 1 }
  let left := clock.span s.now s.deadline
  if left ≤ 0 then timeOut w clock s
  else
    let wake := clock.later s.now (Clock.least w.interval left)
    { s with stage := .resting, live := s.live ++ [.begun .rest s.now (some wake)] }

/-- Asks for the status and sets the timer, if there is time left. -/
def ask (w : Wait) (clock : Clock) (poll : σ → Rat → Call × σ) (s : Race σ) : Race σ :=
  let left := clock.span s.now s.deadline
  if left ≤ 0 then timeOut w clock s
  else
    let (call, source) := poll s.source s.now
    let arrival := call.delay.map fun d => if d = 0 then s.now else clock.later s.now d
    { s with
      source := source
      stage := .asking call.report
      live := s.live ++ [.begun .call s.now arrival,
        .begun .timer s.now (some (clock.later s.now left))] }

/-- Takes an answer: success first, then failure, else there is another round. -/
def take (w : Wait) (clock : Clock) (report : Report) (s : Race σ) : Race σ :=
  match report with
  | .cancelled => timeOut w clock s
  | .raised c => s.finish (.failed c)
  | .status v =>
    if v.same w.success then s.finish (.reached w.success)
    else if !v.isKey then
      s.finish (.failed (.other "TypeError" ("unhashable type: '" ++ v.kindName ++ "'")))
    else if w.failures.any v.same then
      s.finish (.failed (.operationFailed w.resource v w.operation))
    else enterRound w clock s

/-- Goes on after what was waited for. -/
def goOn (w : Wait) (clock : Clock) (poll : σ → Rat → Call × σ) (s : Race σ) : Race σ :=
  match s.stage with
  | .resting => ask w clock poll s
  | .asking report => s.close (.closing (if s.live.any Activity.isCall then none else some report))
  | .closing none => timeOut w clock s
  | .closing (some report) => take w clock report s
  | .leaving => { s with stage := .ended none }
  | .ended _ => s

/-- What the wait waits for is there: its rest is over; one of the call and the timer is, and
nothing else is due at the time; or all that it stopped is over. -/
def Ready (s : Race σ) : Prop :=
  match s.stage with
  | .resting | .closing _ | .leaving => s.live = []
  | .asking _ => s.live.length < 2 ∧ ∀ a ∈ s.live, ∀ t, a.due = some t → s.now < t
  | .ended _ => False

/-- Nothing can happen before some time has passed. -/
def Idle (s : Race σ) : Prop := ¬ s.Ready ∧ ∀ a ∈ s.live, a.stopped = false

/-- Time can pass up to some time: nothing is due before, and nothing can happen without. -/
structure Passes (s : Race σ) (t : Rat) : Prop where
  forward : s.now ≤ t
  first : ∀ a ∈ s.live, ∀ u, a.due = some u → t ≤ u
  idle : s.now < t → s.Idle

/-- Something that goes on comes to its end. -/
def settle (s : Race σ) (before : List Activity) (a : Activity) (after : List Activity) : Race σ :=
  { s with live := before ++ after, past := s.past ++ [a.endedAt s.now] }

/-- What can happen next: something ends by itself at its time, or now because it was stopped; the
wait goes on; or it is cancelled from outside, at any time. To be cancelled once more makes no
difference. -/
inductive Step (w : Wait) (clock : Clock) (poll : σ → Rat → Call × σ) : Race σ → Race σ → Prop
  | elapse {s before a after t} : s.live = before ++ a :: after → a.due = some t → s.Passes t →
      Step w clock poll s ({ s with now := t }.settle before a after)
  | stop {s before a after} : s.live = before ++ a :: after → a.stopped = true →
      Step w clock poll s (s.settle before a after)
  | goOn {s} : s.Ready → Step w clock poll s (goOn w clock poll s)
  | cancel {s t} : s.stage ≠ .leaving → (∀ r, s.stage ≠ .ended r) → s.Passes t →
      Step w clock poll s ({ s with now := t }.close .leaving)

/-- A wait at its beginning. -/
def begin (w : Wait) (clock : Clock) (source : σ) (now : Rat) : Race σ :=
  enterRound w clock ⟨now, now, clock.later now w.timeout, source, .resting, 0, [], []⟩

/-- The states to which a wait can come, each with the number of steps to it. -/
inductive Runs (w : Wait) (clock : Clock) (poll : σ → Rat → Call × σ) (source : σ) (now : Rat) :
    Nat → Race σ → Prop
  | begin : Runs w clock poll source now 0 (begin w clock source now)
  | step {n s s'} : Runs w clock poll source now n s → Step w clock poll s s' →
      Runs w clock poll source now (n + 1) s'

end Race

end ClusterOps.Wait
