import ClusterOps.Session
import ClusterOps.Tasks.Run

/-
Moving what is observed to what is declared. The declaration is expanded and
checked before anything else happens. Then what is observed is fetched and
compared; if the two differ, and the change is not only planned, the update is
run as one task in a tree of tasks. Other tasks of the tree run as they do in
any tree, and whatever fails first, the update or a task beside it, is the
failure of the whole, as it was before any tree wrapped it.

An update changes the world at some times while it runs. What it is going to do
is worked out from the session in which it begins; of that, only what comes
before its end takes place, so an update that is cut off in the middle has done
its first half.
-/

namespace ClusterOps

open Facility (Observed)

/-- What came of a comparison: what was or would be enabled and disabled, whether the two sides
differed, and whether the update was made. -/
structure ChangeSet where
  toEnable : List String
  toDisable : List String
  changed : Bool
  applied : Bool
deriving DecidableEq, Repr, Inhabited

namespace Reconcile

variable {W : Type}

/-- A task in the tree of an update: the update, or other work. -/
inductive Job where
  | update (name : String)
  | other (name : String) (work : Rat → Tasks.Activity)

/-- The name of a task. -/
def Job.name : Job → String
  | .update name | .other name _ => name

/-- What an update is going to do: the changes that it makes to the session, with their times, and
its end. -/
structure Course (W : Type) where
  changes : List (Rat × (Session W → Session W))
  activity : Tasks.Activity

/-- Who takes part: what is observed is fetched, an update is set on its course from the session in
which it begins, and its tree is built. -/
structure Parties (W : Type) where
  fetch : Op W Observed
  update : List String → List String → Session W → Course W
  build : Session W → Tasks Job × Session W

/-- The tree that holds the update alone. -/
def alone (name : String) : Tasks Job := .group false [.leaf (.update name)]

/-- The changes of an update that come before its end. -/
def changesOf (course : Rat → Course W) (span : Tasks.Span Job) :
    List (Rat × (Session W → Session W)) :=
  match span.task with
  | .update _ =>
    (course span.start).changes.filter fun (time, _) => span.stop.all (time ≤ ·)
  | .other _ _ => []

/-- Runs a tree with an update in it. -/
def perform (course : Rat → Course W) (tree : Tasks Job) (s : Session W) :
    Outcome Unit × List (Tasks.Span Job) × Session W :=
  let work (job : Job) (start : Rat) : Tasks.Activity :=
    match job with
    | .update _ => (course start).activity
    | .other _ work => work start
  let r := tree.run Job.name work none s.now
  let changes := Tasks.inOrder (fun a b => a.1 ≤ b.1) (r.spans.flatMap (changesOf course))
  let s := changes.foldl (fun s (_, change) => change s) s
  let s := { s with log := s.log ++ r.records }
  match r.stop with
  | none => (.hung, r.spans, s)
  | some stop =>
    let outcome := match r.finish with
      | .done => .done ()
      | .failed c => .failed c.unwrapped
      | .cancelled => .cancelled
    (outcome, r.spans, { s with now := stop })

/-- What came of a run: how it ended, the declaration afterwards, and the times of the tasks. -/
structure Report where
  outcome : Outcome ChangeSet
  declared : List String
  spans : List (Tasks.Span Job)

/-- Moves what is observed to an expanded declaration. -/
def move (p : Parties W) (catalog desired : List String) (plan : Bool) (observed : Observed)
    (s : Session W) : Report × Session W :=
  let d := Facility.diff observed desired catalog
  if !d.changed || plan then
    (⟨.done ⟨d.toEnable, d.toDisable, d.changed, false⟩, desired, []⟩, s)
  else
    let (tree, s) := p.build s
    let course (start : Rat) : Course W := p.update d.toEnable d.toDisable { s with now := start }
    let (outcome, spans, s) := perform course tree s
    (⟨outcome.map fun _ => ⟨d.toEnable, d.toDisable, true, true⟩, desired, spans⟩, s)

/-- Moves what is observed to a declaration. -/
def run (p : Parties W) (catalog : List String) (plan : Bool) (declared : List String)
    (s : Session W) : Report × Session W :=
  match Facility.expand declared catalog with
  | .error u => (⟨.failed (.unknownFacility u.name), declared, []⟩, s)
  | .ok desired =>
    match p.fetch s with
    | (.done observed, s) => move p catalog desired plan observed s
    | (.failed c, s) => (⟨.failed c, desired, []⟩, s)
    | (.cancelled, s) => (⟨.cancelled, desired, []⟩, s)
    | (.hung, s) => (⟨.hung, desired, []⟩, s)

/-- A declaration with an unknown facility is refused before anything happens. -/
theorem run_unknown (p : Parties W) {catalog declared : List String} {u : Facility.Unknown}
    (plan : Bool) (h : Facility.expand declared catalog = .error u) (s : Session W) :
    run p catalog plan declared s = (⟨.failed (.unknownFacility u.name), declared, []⟩, s) := by
  simp [run, h]

end Reconcile

end ClusterOps
