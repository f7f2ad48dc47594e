import ClusterOps.Cloud
import ClusterOps.Session
import ClusterOps.Settings
import ClusterOps.Snapshot
import ClusterOps.Wait

/-
A cluster provider: what is asked of the cloud about clusters in one region,
with the settings of a run. Faults of the cloud are failures of the provider,
worded for what was wanted; what the cloud does not know is told apart from the
rest, and so is a reply that makes no sense.
-/

namespace ClusterOps

/-- A provider. Its region is that of the settings. -/
structure Provider (σ : Type) where
  cloud : Cloud σ
  clock : Clock
  settings : Settings

/-- An update that the cloud has begun. -/
structure Handle where
  id : Value
  kind : Value
  status : Value
deriving DecidableEq, Repr, Inhabited

namespace Handle

/-- The handle in the reply to a request for an update. -/
def ofPayload (reply : Value) : Except Cause Handle := do
  let update ← Payload.part reply "update"
  let id ← Payload.field update "id"
  if !id.isTruthy then .error (.unexpectedResponse "update response has no id")
  else
    return ⟨id, (← Payload.field? update "type").getD (.text ""),
      (← Payload.field? update "status").getD (.text "InProgress")⟩

end Handle

namespace Provider

variable {σ α : Type}

/-- The region of a provider. -/
def region (p : Provider σ) : String := p.settings.region

/-- A failure worded for what was wanted. -/
def worded (purpose : String) : Cause → Cause
  | .fault f =>
    let text := purpose ++ ": " ++ f.message
    if f.isNotFound then .notFound text else .provider text
  | c => c

/-- An outcome whose failure is worded. -/
def wordedOutcome (purpose : String) : Outcome α → Outcome α
  | .failed c => .failed (worded purpose c)
  | o => o

/-- Makes a connection; its fault is worded only if it is for a purpose. -/
def connect (p : Provider σ) (purpose : Option String) (region : String) : Op (Account σ) Unit :=
  fun s =>
    let (outcome, account) := s.world.connect p.cloud region
    ((purpose.map fun t => wordedOutcome t outcome).getD outcome, { s with world := account })

/-- A provider with a connection to its region. -/
def create (cloud : Cloud σ) (clock : Clock) (settings : Settings) :
    Op (Account σ) (Provider σ) := do
  let p : Provider σ := ⟨cloud, clock, settings⟩
  p.connect none p.region
  return p

/-- Makes a call and waits for its answer. -/
def ask (p : Provider σ) (purpose : String) (r : Request) : Op (Account σ) Value := fun s =>
  let (reply, account) := s.world.send p.cloud s.now p.region r
  let s := { s with world := account }
  (do Op.rest p.clock reply.delay; Op.ends (wordedOutcome purpose reply.outcome)) s

/-! ## Describing -/

/-- What is wanted when a cluster is described. -/
def toDescribe (name : String) : String :=
  "unable to describe cluster control plane " ++ Cause.named name

/-- Describes a cluster. -/
def describe (p : Provider σ) (name : String) : Op (Account σ) Snapshot := do
  let reply ← p.ask (toDescribe name) (.describeCluster name)
  Op.ofExcept (Payload.required reply "cluster" >>= Snapshot.ofPayload)

/-- The snapshot, if the cluster is active. -/
def requireActive (name : String) (s : Snapshot) : Except Cause Snapshot :=
  if s.status.same (.text "ACTIVE") then .ok s
  else .error (.notActive (if s.name.isTruthy then s.name else .text name) s.status)

/-- Describes a cluster that has to be active. -/
def describeActive (p : Provider σ) (name : String) : Op (Account σ) Snapshot := do
  Op.ofExcept (requireActive name (← p.describe name))

/-- The log facilities of a cluster that has to be active. -/
def currentLogging (p : Provider σ) (name : String) : Op (Account σ) Facility.Observed := do
  Op.ofExcept (← p.describeActive name).observed

/-- Describes a cluster for display. -/
def getCluster (p : Provider σ) (name : String) : Op (Account σ) Snapshot := do
  let s ← p.describe name
  Op.record .debug .provider "Described cluster" [("cluster", .text name), ("status", s.status)]
  return s

/-! ## Updates -/

/-- Requests that facilities be enabled and disabled. -/
def updateLogging (p : Provider σ) (name : String) (enabled disabled : List String) :
    Op (Account σ) Handle := do
  let reply ← p.ask ("unable to update logging for cluster " ++ Cause.named name)
    (.updateLogging name enabled disabled)
  Op.ofExcept (Handle.ofPayload reply)

/-- Requests another version. -/
def updateVersion (p : Provider σ) (name version : String) : Op (Account σ) Handle := do
  let reply ← p.ask ("unable to update version of cluster " ++ Cause.named name)
    (.updateVersion name version)
  Op.ofExcept (Handle.ofPayload reply)

/-- What is wanted when an update is described. -/
def toDescribeUpdate (name : String) (update : Value) : String :=
  "unable to describe update " ++ Cause.named update.display ++ " of cluster " ++ Cause.named name

/-- The status in the reply about an update. -/
def updateStatus (update reply : Value) : Except Cause Value := do
  let status ← Payload.field (← Payload.part reply "update") "status"
  if status.isTruthy then return status
  else .error (.unexpectedResponse ("update " ++ Cause.named update.display ++ " has no status"))

/-- The status of an update. -/
def describeUpdate (p : Provider σ) (name : String) (update : Value) : Op (Account σ) Value := do
  let reply ← p.ask (toDescribeUpdate name update) (.describeUpdate name update)
  Op.ofExcept (updateStatus update reply)

/-- What a wait makes of the answer to a call for the status of an update. -/
def report (name : String) (update : Value) : Outcome Value → Wait.Report
  | .done reply =>
    match updateStatus update reply with
    | .ok v => .status v
    | .error c => .raised c
  | .failed c => .raised (worded (toDescribeUpdate name update) c)
  | .cancelled | .hung => .cancelled

/-- One call for the status of an update, for a wait. -/
def poll (p : Provider σ) (name : String) (update : Value) (account : Account σ) (now : Rat) :
    Wait.Call × Account σ :=
  let (reply, account) := account.send p.cloud now p.region (.describeUpdate name update)
  (⟨match reply.outcome with
    | .hung => none
    | _ => reply.delay, report name update reply.outcome⟩, account)

/-- The wait for an update. -/
def waitFor (p : Provider σ) (name : String) (h : Handle) : Wait where
  interval := p.settings.pollInterval
  timeout := p.settings.waitTimeout
  success := .text "Successful"
  failures := [.text "Failed", .text "Cancelled"]
  resource := name
  operation := h.id
  message := some ("waiting for requested " ++ Cause.named h.kind.display ++ " in cluster "
    ++ Cause.named name ++ " to succeed")

/-- How a wait ended, as the outcome of an operation. -/
def waited : Option Wait.Result → Outcome Unit
  | some (.reached _) => .done ()
  | some (.failed c) => .failed c
  | none => .hung

/-- Waits until an update is successful. -/
def waitForUpdate (p : Provider σ) (name : String) (h : Handle) : Op (Account σ) Unit := fun s =>
  let w := (p.waitFor name h).run p.clock (p.poll name h.id) s.world s.now
  (waited w.result?, ⟨w.now, w.source, s.log ++ w.records⟩)

/-- Requests another version and waits until the update is successful. -/
def upgrade (p : Provider σ) (name version : String) : Op (Account σ) Unit := do
  let h ← p.updateVersion name version
  p.waitForUpdate name h
  Op.record .info .provider "Control plane version updated"
    [("cluster", .text name), ("region", .text p.region), ("version", .text version)]

/-- The name of the task that updates the logging of a cluster. -/
def loggingTask : String := "update CloudWatch logging configuration"

/-! ## Small facts -/

/-- A cluster that has to be active is active. -/
theorem status_of_requireActive {name : String} {s t : Snapshot}
    (h : requireActive name s = .ok t) : t = s ∧ s.status.same (.text "ACTIVE") = true := by
  unfold requireActive at h
  split at h
  · exact ⟨(Except.ok.inj h).symm, by assumption⟩
  · cases h

end Provider

end ClusterOps
