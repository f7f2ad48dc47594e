import ClusterOps.Clock
import ClusterOps.Log

/-
Waiting for a long running operation. The waiter rests for an interval, or for
the time that is left if that is shorter, and asks for the status of the
operation; it goes on until the status is the one for success, one of those for
failure, or the deadline has come. Asking can take time, or never end. An answer
counts if it arrives at the deadline or before.

A wait is a machine with three phases: it rests until a time, it has asked and
the answer arrives at some time or never, or it is over. One step takes it to
the next time at which something happens to it.
-/

namespace ClusterOps

/-- What is waited for: how often the status is asked for, for how long, and which statuses end
the wait. -/
structure Wait where
  interval : Rat
  timeout : Rat
  success : Value
  failures : List Value
  resource : String
  operation : Value
  message : Option String
deriving Repr, Inhabited

namespace Wait

/-- What comes of asking for the status. A call can end itself, which is no failure. -/
inductive Report where
  | status (v : Value)
  | raised (c : Cause)
  | cancelled
deriving DecidableEq, Repr, Inhabited

/-- A call for the status: how long its answer takes, nothing if it never comes, and the answer. -/
structure Call where
  delay : Option Rat
  report : Report
deriving DecidableEq, Repr, Inhabited

/-- How a wait ends. -/
inductive Result where
  | reached (v : Value)
  | failed (c : Cause)
deriving DecidableEq, Repr, Inhabited

/-- Where a wait stands. -/
inductive Phase where
  | resting (span wake : Rat)
  | asking (span due : Rat) (arrival : Option Rat) (report : Report)
  | over (result : Result)
deriving DecidableEq, Repr, Inhabited

/-- A wait in progress: the time, its phase, what answers its calls, when the calls were made, how
long each rest or deadline timer that ran out was, and what was logged. -/
structure State (σ : Type) where
  now : Rat
  start : Rat
  deadline : Rat
  phase : Phase
  source : σ
  calls : List Rat
  spans : List Rat
  records : List Record

namespace State

variable {σ : Type}

/-- Adds a record. -/
def log (s : State σ) (level : Level) (message : String) (fields : List (String × Value)) :
    State σ :=
  { s with records := s.records ++ [⟨s.now, level, .wait, message, fields, none⟩] }

/-- Ends the wait. -/
def finish (s : State σ) (r : Result) : State σ := { s with phase := .over r }

/-- Whether the wait is over. -/
def isOver (s : State σ) : Bool :=
  match s.phase with
  | .over _ => true
  | _ => false

/-- The result of a wait that is over. -/
def result? (s : State σ) : Option Result :=
  match s.phase with
  | .over r => some r
  | _ => none

end State

variable {σ : Type}

/-- The fields that tell which operation a record is about. -/
def about (w : Wait) : List (String × Value) :=
  [("resource", .text w.resource), ("operation_id", w.operation)]

/-- A number of seconds rounded to hundredths. -/
def hundredths (q : Rat) : Value := .float ((Binary64.ofRat q).roundedTo 2)

/-- Ends the wait because its time is over. -/
def timeOut (w : Wait) (clock : Clock) (s : State σ) : State σ :=
  let elapsed := clock.span s.start s.now
  (s.log .error "Timed out waiting for operation"
    (w.about ++ [("elapsed_seconds", hundredths elapsed)])).finish
      (.failed (.operationTimeout w.resource elapsed))

/-- Begins a rest, if there is time left. -/
def rest (w : Wait) (clock : Clock) (s : State σ) : State σ :=
  let left := clock.span s.now s.deadline
  if left ≤ 0 then w.timeOut clock s
  else
    let span := Clock.least w.interval left
    { s with phase := .resting span (clock.later s.now span) }

/-- Asks for the status, if there is time left. -/
def ask (w : Wait) (clock : Clock) (poll : σ → Rat → Call × σ) (s : State σ) : State σ :=
  let left := clock.span s.now s.deadline
  if left ≤ 0 then w.timeOut clock s
  else
    let (call, source) := poll s.source s.now
    { s with
      source := source
      calls := s.calls ++ [s.now]
      phase := .asking left (clock.later s.now left)
        (call.delay.map fun d => if d = 0 then s.now else clock.later s.now d) call.report }

/-- Takes an answer: success first, then failure, else the wait goes on. -/
def take (w : Wait) (clock : Clock) (report : Report) (s : State σ) : State σ :=
  match report with
  | .cancelled => w.timeOut clock s
  | .raised c => s.finish (.failed c)
  | .status v =>
    if v.same w.success then s.finish (.reached w.success)
    else if !v.isKey then
      s.finish (.failed (.other "TypeError" ("unhashable type: '" ++ v.kindName ++ "'")))
    else if w.failures.any v.same then
      s.finish (.failed (.operationFailed w.resource v w.operation))
    else
      w.rest clock (s.log .debug "Operation not yet terminal" (w.about ++ [("status", v)]))

/-- Goes on to the next time at which something happens. -/
def step (w : Wait) (clock : Clock) (poll : σ → Rat → Call × σ) (s : State σ) : State σ :=
  match s.phase with
  | .over _ => s
  | .resting span wake => w.ask clock poll { s with now := wake, spans := s.spans ++ [span] }
  | .asking span due arrival report =>
    match arrival with
    | some t =>
      if t ≤ due then
        w.take clock report
          { s with now := t, spans := if t = due then s.spans ++ [span] else s.spans }
      else w.timeOut clock { s with now := due, spans := s.spans ++ [span] }
    | none => w.timeOut clock { s with now := due, spans := s.spans ++ [span] }

/-- The wait at its beginning. -/
def begin (w : Wait) (clock : Clock) (source : σ) (now : Rat) : State σ :=
  let s : State σ := ⟨now, now, clock.later now w.timeout, .resting 0 now, source, [], [], []⟩
  let s := match w.message with
    | none => s
    | some m => if m.isEmpty then s else s.log .info m w.about
  w.rest clock s

/-- Steps until the wait is over, at most `fuel` of them. -/
def steps (w : Wait) (clock : Clock) (poll : σ → Rat → Call × σ) : Nat → State σ → State σ
  | 0, s => s
  | fuel + 1, s => if s.isOver then s else steps w clock poll fuel (w.step clock poll s)

/-- How many steps a wait can take. Two steps use up an interval, or the time that is left; the
rest makes up for rounding. -/
def bound (w : Wait) : Nat := 4 * (w.timeout / w.interval).ceil.toNat + 16

/-- The wait from its beginning to its end. -/
def run (w : Wait) (clock : Clock) (poll : σ → Rat → Call × σ) (source : σ) (now : Rat) :
    State σ :=
  w.steps clock poll w.bound (w.begin clock source now)

/-- Why an interval and a timeout cannot be waited with; they are given as they were written. -/
def refusal? (interval timeout : Value) : Option Cause :=
  let notPositive (v : Value) : Bool := v.number?.all (· ≤ 0)
  if notPositive interval then
    some (.other "ValueError" ("interval must be positive: " ++ interval.display))
  else if notPositive timeout then
    some (.other "ValueError" ("timeout must be positive: " ++ timeout.display))
  else none

end Wait

end ClusterOps
