import ClusterOps.Clock
import ClusterOps.Listing
import ClusterOps.Log

/-
The same listing in many partitions at once. Each partition has a worker, and a
worker needs a slot to list; the slots are given out in the order in which the
workers came for them, and a worker at its end hands its slot to the first that
waits. A partition whose listing fails is left out of the result, and the others
go on.

The workers share a world, which page calls read and change. A page call may
have to wait, once or more often; between two waits nothing else happens. What
has to happen later stands in one list, ordered by time and, at the same time,
by when it was put there.

A worker that is cancelled cancels the whole. The others go on until that is
noticed, which takes two turns.
-/

namespace ClusterOps.Fanout

open Listing

/-- What comes of a page call: its answer, or a wait for so many seconds, or for ever, after which
there is a rest of the call to be done. -/
inductive Reply (α ρ : Type) where
  | page (p : Page α)
  | failed (c : Cause)
  | cancelled
  | after (delay : Option Rat) (rest : ρ)
deriving Repr, Inhabited

/-- The page calls of the workers. A call is told the time, the number of the worker and its
partition; `waits` is how often it waits at most. -/
structure Calls (σ ι α ρ : Type) where
  ask : σ → Rat → Nat → ι → Value → Reply α ρ × σ
  resume : σ → Rat → Nat → ι → ρ → Reply α ρ × σ
  waits : Nat

/-- Where a worker stands. While it lists it holds a slot. -/
inductive Phase (α ρ : Type) where
  | fresh
  | queued
  | granted
  | listing (left : Nat) (pages : List (List α)) (rest : ρ)
  | over (outcome : Outcome (List α))
deriving Repr, Inhabited

/-- What can be put off: the turn of a worker, the notice that one was cancelled, and the end that
follows from it. -/
inductive Signal where
  | turn (worker : Nat)
  | notice
  | halt
deriving DecidableEq, Repr, Inhabited

/-- A signal and its time. -/
structure Event where
  due : Rat
  signal : Signal
deriving DecidableEq, Repr, Inhabited

/-- The state of a run. Without a bound on the slots there is no number of free ones. -/
structure State (σ α ρ : Type) where
  now : Rat
  world : σ
  free : Option Nat
  queue : List Nat
  phases : List (Phase α ρ)
  events : List Event
  halted : Bool

/-- Puts an event behind all those that are not later. -/
def insertEvent (e : Event) : List Event → List Event
  | [] => [e]
  | f :: rest => if f.due ≤ e.due then f :: insertEvent e rest else e :: f :: rest

variable {σ ι α ρ : Type}

namespace State

/-- Puts off a signal. -/
def post (s : State σ α ρ) (due : Rat) (signal : Signal) : State σ α ρ :=
  { s with events := insertEvent ⟨due, signal⟩ s.events }

/-- Changes the phase of a worker. -/
def enter (s : State σ α ρ) (worker : Nat) (phase : Phase α ρ) : State σ α ρ :=
  { s with phases := s.phases.set worker phase }

/-- Takes back a slot: the first worker that waits for one gets it. -/
def release (s : State σ α ρ) : State σ α ρ :=
  match s.queue with
  | j :: rest => ({ s with queue := rest }.enter j .granted).post s.now (.turn j)
  | [] => { s with free := s.free.map (· + 1) }

/-- Ends a worker. -/
def finish (s : State σ α ρ) (worker : Nat) (outcome : Outcome (List α)) : State σ α ρ :=
  let s := (s.enter worker (.over outcome)).release
  match outcome with
  | .cancelled => s.post s.now .notice
  | _ => s

end State

/-- Takes replies until the worker has to wait or is at its end; `left` more pages may be asked
for. -/
def proceed (calls : Calls σ ι α ρ) (clock : Clock) (worker : Nat) (partition : ι) :
    Nat → List (List α) → Reply α ρ → State σ α ρ → State σ α ρ
  | left, pages, .after delay rest, s =>
    let s := s.enter worker (.listing left pages rest)
    match delay with
    | some d => s.post (if d = 0 then s.now else clock.later s.now d) (.turn worker)
    | none => s
  | _, _, .failed c, s => s.finish worker (.failed c)
  | _, _, .cancelled, s => s.finish worker .cancelled
  | 0, pages, .page p, s =>
    s.finish worker
      (if p.next.isTruthy then .failed (.endlessListing limit)
      else .done (joined (p.items :: pages)))
  | left + 1, pages, .page p, s =>
    if p.next.isTruthy then
      let (reply, world) := calls.ask s.world s.now worker partition p.next
      proceed calls clock worker partition left (p.items :: pages) reply { s with world := world }
    else s.finish worker (.done (joined (p.items :: pages)))

/-- The first page call of a worker that has a slot. -/
def begin (calls : Calls σ ι α ρ) (clock : Clock) (worker : Nat) (partition : ι)
    (s : State σ α ρ) : State σ α ρ :=
  let (reply, world) := calls.ask s.world s.now worker partition firstToken
  proceed calls clock worker partition (limit - 1) [] reply { s with world := world }

/-- The turn of a worker. -/
def turn (calls : Calls σ ι α ρ) (clock : Clock) (worker : Nat) (partition : ι)
    (s : State σ α ρ) : State σ α ρ :=
  match s.phases[worker]? with
  | some .fresh =>
    match s.free with
    | some 0 => { s.enter worker .queued with queue := s.queue ++ [worker] }
    | free => begin calls clock worker partition { s with free := free.map (· - 1) }
  | some .granted => begin calls clock worker partition s
  | some (.listing left pages rest) =>
    let (reply, world) := calls.resume s.world s.now worker partition rest
    proceed calls clock worker partition left pages reply { s with world := world }
  | _ => s

/-- Lets happen what is next. -/
def step (calls : Calls σ ι α ρ) (clock : Clock) (partitions : List ι) (s : State σ α ρ) :
    State σ α ρ :=
  match s.events with
  | [] => s
  | e :: rest =>
    let s := { s with now := e.due, events := rest }
    match e.signal with
    | .turn k =>
      match partitions[k]? with
      | some p => turn calls clock k p s
      | none => s
    | .notice => s.post s.now .halt
    | .halt => { s with events := [], halted := true }

/-- Steps until nothing is left to happen, at most `fuel` of them. -/
def steps (calls : Calls σ ι α ρ) (clock : Clock) (partitions : List ι) :
    Nat → State σ α ρ → State σ α ρ
  | 0, s => s
  | fuel + 1, s =>
    if s.events.isEmpty then s
    else steps calls clock partitions fuel (step calls clock partitions s)

/-- The state in which every worker is about to have its first turn. -/
def start (width : Option Nat) (partitions : List ι) (world : σ) (now : Rat) : State σ α ρ where
  now := now
  world := world
  free := width
  queue := []
  phases := partitions.map fun _ => .fresh
  events := (List.range partitions.length).map fun k => ⟨now, .turn k⟩
  halted := false

/-- How many steps a run can take: a worker has two turns to begin, and one after every wait. A
cancelled one is followed by two signals. -/
def bound (calls : Calls σ ι α ρ) (partitions : List ι) : Nat :=
  partitions.length * (calls.waits * limit + 4) + 1

/-- The run from its beginning to its end. -/
def run (calls : Calls σ ι α ρ) (clock : Clock) (width : Option Nat) (partitions : List ι)
    (world : σ) (now : Rat) : State σ α ρ :=
  steps calls clock partitions (bound calls partitions) (start width partitions world now)

/-! ## What comes of it -/

/-- The items of all partitions that were listed, and the failures of the others. -/
structure Result (ι α : Type) where
  items : List α
  succeeded : List ι
  failures : List (ι × Cause)
deriving Repr, Inhabited

/-- Whether no partition failed. -/
def Result.complete (r : Result ι α) : Bool := r.failures.isEmpty

/-- The result of partitions with their outcomes, in the order of the partitions. -/
def Result.ofOutcomes (outcomes : List (ι × Outcome (List α))) : Result ι α where
  items := outcomes.flatMap fun (_, o) => o.value?.getD []
  succeeded := outcomes.filterMap fun (p, o) => o.value?.map fun _ => p
  failures := outcomes.filterMap fun (p, o) => o.failure?.map fun c => (p, c)

/-- The outcome of a worker; one that is not at its end never gets there. -/
def Phase.outcome : Phase α ρ → Outcome (List α)
  | .over o => o
  | _ => .hung

/-- The result of a run. -/
def State.result (partitions : List ι) (s : State σ α ρ) : Outcome (Result ι α) :=
  let outcomes := s.phases.map Phase.outcome
  if s.halted then .cancelled
  else if outcomes.any fun o => o matches .hung then .hung
  else .done (.ofOutcomes (partitions.zip outcomes))

/-- The records of a result: one for each partition that failed, and a summary. -/
def Result.records (name : ι → String) (now : Rat) (r : Result ι α) : List Record :=
  let failure (f : ι × Cause) : Record :=
    ⟨now, .warning, .listing, "Listing failed in partition, skipping it",
      [("partition", .text (name f.1)), ("error", .text f.2.message),
        ("error_type", .text f.2.kind)], none⟩
  r.failures.map failure ++
    [⟨now, .info, .listing, "Partitioned listing complete",
      [("partitions_succeeded", .int r.succeeded.length),
        ("partitions_failed", .int r.failures.length), ("items_found", .int r.items.length)],
      none⟩]

/-- Why a number of slots is refused. -/
def refusal? (width : Option Int) : Option Cause :=
  match width with
  | none => none
  | some n =>
    if n < 1 then
      some (.other "ValueError" ("max_concurrency must be at least 1: " ++ toString n))
    else none

/-! ## Small facts -/

/-- A partition that succeeded or failed is one of those that were asked for, and the result says
so in their order. -/
theorem succeeded_sublist (outcomes : List (ι × Outcome (List α))) :
    (Result.ofOutcomes outcomes).succeeded.Sublist (outcomes.map Prod.fst) := by
  induction outcomes with
  | nil => exact .slnil
  | cons o rest ih =>
    obtain ⟨p, o⟩ := o
    cases o with
    | done items => exact ih.cons_cons p
    | _ => exact ih.cons p

end ClusterOps.Fanout
