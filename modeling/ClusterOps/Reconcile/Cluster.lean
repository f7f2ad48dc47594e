import ClusterOps.ClusterDocument
import ClusterOps.Provider
import ClusterOps.Reconcile

/-
Reconciling the log facilities of one cluster with its document. Failures do not
leave a run: they are logged and kept in its result. Only a cancellation goes
through.
-/

namespace ClusterOps

/-- The result of a run. -/
structure Reconciliation where
  cluster : String
  region : String
  plan : Bool
  start : Moment
  stop : Option Moment
  changed : Bool
  applied : Bool
  toEnable : List String
  toDisable : List String
  error : Option Cause
deriving DecidableEq, Repr, Inhabited

namespace Reconciliation

/-- How long the run took, in seconds. -/
def duration (r : Reconciliation) : Binary64 :=
  match r.stop with
  | none => .ofInt 0
  | some stop => .ofRat (mkRat (stop.micros - r.start.micros) 1000000)

/-- Whether nothing failed. -/
def succeeded (r : Reconciliation) : Bool := r.error.isNone

/-- The result as a record for an operator. -/
def toRecord (r : Reconciliation) : List (String × Value) :=
  [("cluster", .text r.cluster), ("region", .text r.region), ("plan", .bool r.plan),
    ("changed", .bool r.changed), ("applied", .bool r.applied),
    ("enableTypes", .texts r.toEnable), ("disableTypes", .texts r.toDisable),
    ("durationSeconds", .float (r.duration.roundedTo 3)),
    ("error", .ofText? (r.error.map Cause.message))]

/-- The fields of the record about the result. -/
def fields (r : Reconciliation) : List (String × Value) :=
  [("cluster", .text r.cluster), ("region", .text r.region), ("plan", .bool r.plan),
    ("duration_seconds", .float r.duration), ("changed", .bool r.changed),
    ("applied", .bool r.applied)]
    ++ match r.error with
      | none => []
      | some c => [("error", .text c.message), ("error_type", .text c.kind)]

/-- The level and the wording of the record about the result. -/
def headline (r : Reconciliation) : Level × String :=
  if r.succeeded then (.info, "Reconciliation result") else (.error, "Reconciliation failed")

/-- The result succeeded exactly if it has no error. -/
theorem succeeded_iff (r : Reconciliation) : r.succeeded = true ↔ r.error = none := by
  simp [succeeded]

end Reconciliation

namespace Reconcile

variable {W : Type}

/-- Writes a record about reconciling. -/
def note (level : Level) (message : String) (fields : List (String × Value))
    (failure : Option Cause) (s : Session W) : Session W :=
  { s with log := s.log ++ [⟨s.now, level, .reconcile, message, fields, failure⟩] }

/-- The fields that tell which cluster a record is about. -/
def about (i : Identity) : List (String × Value) :=
  [("cluster", .text i.name), ("region", .text i.region)]

/-- The words for a cluster and its region. -/
def place (i : Identity) : String :=
  "cluster " ++ Cause.named i.name ++ " in " ++ Cause.named i.region

/-- The words for both halves of a change. -/
def halves (enabling disabling : String) (c : ChangeSet) : String :=
  " (" ++ Facility.describe enabling c.toEnable ++ " & "
    ++ Facility.describe disabling c.toDisable ++ ")"

/-- The advice of a plan. -/
def planAdvice : String :=
  "no changes were applied, run again with '--approve' to apply the changes"

/-- Writes what a change came to. -/
def noteChange (plan : Bool) (i : Identity) (c : ChangeSet) (s : Session W) :
    Session W :=
  if c.changed then
    let s := note .info ((if plan then "(plan) " else "") ++ "update CloudWatch logging for "
      ++ place i ++ halves "enable" "disable" c) (about i ++ [("plan", .bool plan)]) none s
    if c.applied then
      note .info ("configured CloudWatch logging for " ++ place i
        ++ halves "enabled" "disabled" c) (about i) none s
    else note .warning planAdvice [] none s
  else
    note .info ("CloudWatch logging for " ++ place i ++ " is already up-to-date") (about i) none s

/-- Writes what failed, in words that fit the cause. -/
def noteFailure (name : String) (c : Cause) (s : Session W) : Session W :=
  let told (message : String) (fields : List (String × Value)) : Session W :=
    note .error message (("cluster", .text name) :: fields) none s
  match c with
  | .unknownFacility _ => told "Invalid log type" [("error", .text c.message)]
  | .notFound _ => told "Cluster not found" [("error", .text c.message)]
  | .notActive _ status => told "Cluster is not active" [("status", status)]
  | .operationFailed _ status operation =>
    told "Logging update failed" [("status", status), ("operation_id", operation)]
  | .operationTimeout _ elapsed =>
    told "Logging update timed out" [("elapsed_seconds", Wait.hundredths elapsed)]
  | .provider _ | .unexpectedResponse _ => told "Provider error" [("error", .text c.message)]
  | _ => note .error "Unexpected error during reconciliation" [] (some c) s

/-- The result of a run, from how it ended. -/
def resultOf (plan : Bool) (i : Identity) (start stop : Rat)
    (ending : Except Cause ChangeSet) : Reconciliation :=
  let r : Reconciliation := ⟨i.name, i.region, plan, .ofSeconds start, some (.ofSeconds stop),
    false, false, [], [], none⟩
  match ending with
  | .ok c =>
    { r with changed := c.changed, applied := c.applied, toEnable := c.toEnable,
             toDisable := c.toDisable }
  | .error c => { r with error := some c }

/-- Ends a run: what happened is written, and then the result. -/
def conclude (plan : Bool) (i : Identity) (start : Rat)
    (ending : Except Cause ChangeSet) (s : Session W) : Reconciliation × Session W :=
  let s := match ending with
    | .ok c => noteChange plan i c s
    | .error c => noteFailure i.name c s
  let r := resultOf plan i start s.now ending
  (r, note r.headline.1 r.headline.2 r.fields none s)

/-- Reconciles a cluster with its document, which is changed where its declaration is expanded. -/
def cluster (p : Parties W) (plan : Bool) (d : ClusterDocument) (s : Session W) :
    Outcome Reconciliation × ClusterDocument × Session W :=
  let start := s.now
  let (report, s) := run p Facility.supported plan d.declared s
  let d := { d with enableTypes := some report.declared }
  let concluded (ending : Except Cause ChangeSet) :
      Outcome Reconciliation × ClusterDocument × Session W :=
    let (r, s) := conclude plan d.identity start ending s
    (.done r, d, s)
  match report.outcome with
  | .done c => concluded (.ok c)
  | .failed c => concluded (.error c)
  | .cancelled => (.cancelled, d, s)
  | .hung => (.hung, d, s)

/-! ## With a provider -/

variable {σ : Type}

/-- The update of a cluster: it is requested and waited for. -/
def requestUpdate (p : Provider σ) (name : String) (enable disable : List String) :
    Op (Account σ) Unit := do
  p.waitForUpdate name (← p.updateLogging name enable disable)

/-- How a task ends that is an operation. -/
def finishOf : Outcome Unit → Tasks.Finish
  | .done () => .done
  | .failed c => .failed c
  | .cancelled | .hung => .cancelled

/-- The course of an operation that is run as a task: all that it changes is in the session at its
end. -/
def courseOf (op : Op W Unit) (s : Session W) : Course W :=
  let (outcome, t) := op s
  let stop := match outcome with
    | .hung => none
    | _ => some t.now
  ⟨[(t.now, fun _ => t)], ⟨stop, finishOf outcome, t.now == s.now⟩⟩

/-- The tree for the update of a cluster, and the record of it. -/
def buildTree (s : Session W) : Tasks Job × Session W :=
  let tree := alone Provider.loggingTask
  (tree, note .debug "Running update tasks" [("tasks", .text (tree.describe Job.name))] none s)

/-- The parties to reconciling a cluster through a provider. -/
def partiesOf (p : Provider σ) (name : String) : Parties (Account σ) where
  fetch := p.currentLogging name
  update enable disable s := courseOf (requestUpdate p name enable disable) s
  build := buildTree

/-- Reconciles the cluster of a document through a provider. -/
def document (p : Provider σ) (plan : Bool) (d : ClusterDocument)
    (s : Session (Account σ)) :
    Outcome Reconciliation × ClusterDocument × Session (Account σ) :=
  cluster (partiesOf p d.identity.name) plan d s

/-- The result of reconciling the cluster of a document. -/
def result (p : Provider σ) (plan : Bool) (d : ClusterDocument) :
    Op (Account σ) Reconciliation := fun s =>
  let (outcome, _, s) := document p plan d s
  (outcome, s)

end Reconcile

end ClusterOps
