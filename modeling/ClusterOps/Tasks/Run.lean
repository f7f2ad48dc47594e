import ClusterOps.Clock
import ClusterOps.Log
import ClusterOps.Tasks

/-
Running a tree of tasks. The run is described by the time spans of its leaves,
the records that were written, and the end of the whole. A leaf may end, fail,
be cancelled, or never end.

A group of children one after the other ends with the first that does not end
well. A group of children at once ends when the last child has ended, and its
failure is that of the child that failed first; of two that fail at the same
time the left one counts. What a failed group reports is the failure of a leaf,
with the description of the leaf, however deep it stands.

A run can be cut off at a time. Everything that lasts longer ends then as
cancelled, and the whole is cancelled. The same happens to a group of children
at once when one of its leaves cancels itself.
-/

namespace ClusterOps.Tasks

variable {α : Type}

/-- How a task ends. -/
inductive Finish where
  | done
  | failed (c : Cause)
  | cancelled
deriving DecidableEq, Repr, Inhabited

/-- The work behind a leaf: the time at which it ends by itself, nothing if it never does, and how.
An instant work ends before anything else can happen. -/
structure Activity where
  stop : Option Rat
  finish : Finish
  instant : Bool
deriving DecidableEq, Repr, Inhabited

/-- The time that a leaf took; it has no end if it never ended. -/
structure Span (α : Type) where
  task : α
  start : Rat
  stop : Option Rat
  finish : Finish
deriving Repr, Inhabited

/-- A record, and whether it is written only after everything else of its time. -/
structure Note where
  record : Record
  late : Bool
deriving Repr, Inhabited

/-- What happens when a task is run. -/
structure Run (α : Type) where
  spans : List (Span α)
  notes : List Note
  stop : Option Rat
  finish : Finish
deriving Repr, Inhabited

/-! ## Times -/

/-- Puts an element in front of those that are not below it. -/
def insertBefore {β : Type} (atMost : β → β → Bool) (a : β) : List β → List β
  | [] => [a]
  | b :: bs => if atMost a b then a :: b :: bs else b :: insertBefore atMost a bs

/-- The elements in order; equal ones keep their order. -/
def inOrder {β : Type} (atMost : β → β → Bool) (xs : List β) : List β :=
  xs.foldr (insertBefore atMost) []

/-- The later of two ends; nothing if either never comes. -/
def laterEnd : Option Rat → Option Rat → Option Rat
  | some a, some b => some (Clock.greatest a b)
  | _, _ => none

/-- The earlier of two times, of which either may be missing. -/
def earlier : Option Rat → Option Rat → Option Rat
  | some a, some b => some (Clock.least a b)
  | some a, none => some a
  | none, b => b

/-- Whether something lasts longer than a time. -/
def lasts (stop : Option Rat) (c : Rat) : Bool := stop.all (c < ·)

/-! ## Failures -/

/-- The failure that a group reports for a child, and the record of it. A child that is a group
has a failure of its own already. -/
def report (name : α → String) (child : Tasks α) (time : Rat) (late : Bool) (c : Cause) :
    Cause × List Note :=
  if c.isTaskFailure then (c, [])
  else
    let task := child.describe name
    (.taskFailure task c,
      [⟨⟨time, .error, .task, "Task failed",
        [("task", .text task), ("error", .text c.message), ("error_type", .text c.kind)], none⟩,
        late⟩])

/-- The record of a failure that is not reported, because another child failed before. -/
def extraNote (name : α → String) (child : Tasks α) (time : Rat) (c : Cause) : Note :=
  ⟨⟨time, .warning, .task, "Additional parallel task failure",
    [("task", .text (child.describe name)), ("error", .text c.message)], none⟩, true⟩

/-- The children that failed, with time and cause, first failure first. -/
def failures (children : List (Tasks α × Run α)) : List (Tasks α × Rat × Cause) :=
  inOrder (fun a b => a.2.1 ≤ b.2.1) (children.filterMap fun (t, r) =>
    match r.stop, r.finish with
    | some e, .failed c => some (t, e, c)
    | _, _ => none)

/-- How a group of children at once ends once all have ended, and its records. -/
def settle (name : α → String) (children : List (Tasks α × Run α)) : Finish × List Note :=
  match failures children with
  | [] => (.done, [])
  | (t, e, c) :: rest =>
    let (failure, notes) := report name t e true c
    (.failed failure, notes ++ rest.map fun (t, e, c) => extraNote name t e c)

/-! ## Cutting off -/

/-- The span as it is when everything ends at a time. -/
def Span.cut (c : Rat) (s : Span α) : Span α :=
  if lasts s.stop c then { s with stop := some c, finish := .cancelled } else s

/-- The run as it is when everything ends at a time. -/
def Run.cut (c : Rat) (r : Run α) : Run α where
  spans := (r.spans.filter fun s => s.start ≤ c).map (Span.cut c)
  notes := r.notes.filter fun n => if n.late then n.record.time < c else n.record.time ≤ c
  stop := some c
  finish := .cancelled

/-- The first time at which a child cancels itself. -/
def firstCancelled (children : List (Tasks α × Run α)) : Option Rat :=
  children.foldl
    (fun c (_, r) => if r.finish == .cancelled then earlier c r.stop else c) none

/-- The run of a group of children at once. `limit` is the time at which it is cut off. -/
def gather (name : α → String) (limit : Option Rat) (start : Rat)
    (children : List (Tasks α × Run α)) : Run α :=
  let stop := children.foldl (fun e (_, r) => laterEnd e r.stop) (some start)
  let (finish, notes) := settle name children
  let whole : Run α :=
    ⟨children.flatMap fun (_, r) => r.spans, children.flatMap (fun (_, r) => r.notes) ++ notes,
      stop, finish⟩
  let reached := limit.filter fun l => stop.all (l ≤ ·)
  match earlier reached (firstCancelled children) with
  | some c => whole.cut c
  | none => whole

/-! ## Running -/

/-- The run of a leaf. -/
def runLeaf (work : α → Rat → Activity) (limit : Option Rat) (start : Rat) (a : α) : Run α :=
  let w := work a start
  let cutOff := limit.filter fun l => !w.instant && w.stop.all (l ≤ ·)
  match cutOff with
  | some l => ⟨[⟨a, start, some l, .cancelled⟩], [], some l, .cancelled⟩
  | none => ⟨[⟨a, start, w.stop, w.finish⟩], [], w.stop, w.finish⟩

mutual

/-- The run of a task from a time on, cut off at a limit if there is one. -/
def run (name : α → String) (work : α → Rat → Activity) (limit : Option Rat) (start : Rat) :
    Tasks α → Run α
  | .leaf a => runLeaf work limit start a
  | .group true ts =>
    match ts with
    | [] => ⟨[], [], some start, .done⟩
    | t :: ts => gather name limit start ((t, run name work none start t)
        :: runEach name work start ts)
  | .group false ts => runInTurn name work limit start ts

/-- The runs of children that start together. -/
def runEach (name : α → String) (work : α → Rat → Activity) (start : Rat) :
    List (Tasks α) → List (Tasks α × Run α)
  | [] => []
  | t :: ts => (t, run name work none start t) :: runEach name work start ts

/-- The run of children one after the other. -/
def runInTurn (name : α → String) (work : α → Rat → Activity) (limit : Option Rat)
    (start : Rat) : List (Tasks α) → Run α
  | [] => ⟨[], [], some start, .done⟩
  | t :: ts =>
    let r := run name work limit start t
    match r.stop, r.finish with
    | some e, .done =>
      let rest := runInTurn name work limit e ts
      ⟨r.spans ++ rest.spans, r.notes ++ rest.notes, rest.stop, rest.finish⟩
    | some e, .failed c =>
      let (failure, notes) := report name t e false c
      ⟨r.spans, r.notes ++ notes, some e, .failed failure⟩
    | _, _ => r

end

/-! ## What can be seen of a run -/

/-- The records in the order in which they are written. -/
def Run.records (r : Run α) : List Record :=
  inOrder (fun a b => a.time ≤ b.time) (r.notes.map Note.record)

/-- Something that happens to a leaf. -/
structure Event (α : Type) where
  task : α
  time : Rat
  finish : Option Finish
deriving Repr, Inhabited

/-- The start of a span, and its end if it has one. -/
def Span.events (s : Span α) : List (Event α) :=
  ⟨s.task, s.start, none⟩ :: match s.stop with
    | some e => [⟨s.task, e, some s.finish⟩]
    | none => []

/-- The events by time and, at the same time, by the number of the leaf, a start first. -/
def Run.events (number : α → Nat) (r : Run α) : List (Event α) :=
  inOrder (fun a b => a.time < b.time || (a.time == b.time && number a.task ≤ number b.task))
    (r.spans.flatMap Span.events)

/-- An empty group changes nothing in front of others. -/
theorem runInTurn_empty (name : α → String) (work : α → Rat → Activity) (limit : Option Rat)
    (start : Rat) (p : Bool) (ts : List (Tasks α)) :
    runInTurn name work limit start (.group p [] :: ts)
      = runInTurn name work limit start ts := by
  cases p <;> simp [runInTurn, run]

end ClusterOps.Tasks
