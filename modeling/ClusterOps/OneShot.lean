import ClusterOps.Surroundings

/-
One reconciliation, told by variables alone, as a scheduled job runs it. The
declaration comes from the file that a variable names; without one it is made of
the name of the cluster and a list of facilities, or all of them. The name in
the variables goes before the one in the file, and the region in the file before
the one in the variables.

Settings that break a rule and a declaration that cannot be had are recorded and
end the run with code 1, and so does a reconciliation that fails. A connection
that is refused is not handled.
-/

namespace ClusterOps.OneShot

variable {σ : Type}

/-- The variable that names the file with the declaration. -/
def fileVariable : String := "CLUSTER_CONFIG_FILE"

/-- The variable that lists facilities. -/
def facilitiesVariable : String := "ENABLE_LOG_TYPES"

/-- The variables that only these runs read. -/
def variableNames : List String := [fileVariable, facilitiesVariable]

/-- The facilities that the variables ask for. -/
def facilities (env : Environment) : List String :=
  (env.lookup facilitiesVariable).elim Facility.supported Text.commaParts

/-- The declaration in a file, with the name and the region that hold for the run. -/
def filed (t : Settings) (d : ClusterDocument) : ClusterDocument :=
  { d with identity := { d.identity with
      name := Environment.orElse t.clusterName d.identity.name
      region := Environment.orElse d.identity.region t.region } }

/-- The declaration that the settings and the variables make. -/
def declared (env : Environment) (t : Settings) : Except Cause ClusterDocument :=
  if t.clusterName.isEmpty then
    .error (.settings ("CLUSTER_NAME is required without " ++ fileVariable))
  else
    (ClusterDocument.new t.clusterName t.region (facilities env) none).mapError fun _ =>
      .other "ValidationError" ""

/-- The declaration for a run. -/
def document (w : Surroundings σ) (t : Settings) : Op (Account σ) ClusterDocument :=
  let path := w.env.text fileVariable
  if path.isEmpty then Op.ofExcept (declared w.env t)
  else do return filed t (← w.document path)

/-- The settings with the region of the declaration. -/
def inRegionOf (t : Settings) (d : ClusterDocument) : Except Cause Settings :=
  let region := Environment.orElse d.identity.region t.region
  if region = t.region then .ok t
  else (t.withOverrides { region := some region }).mapError fun e => .settings e.message

/-- The declaration and the settings for a run. -/
def prepare (w : Surroundings σ) (t : Settings) :
    Op (Account σ) (ClusterDocument × Settings) := do
  let d ← document w t
  return (d, ← Op.ofExcept (inRegionOf t d))

/-- Whether a cause ends a run before it begins, with a record. -/
def isReported : Cause → Bool
  | .settings _ | .document _ => true
  | _ => false

/-- Ends a run that has not begun. -/
def refuse (message : String) (c : Cause) : Op (Account σ) Nat := do
  Op.record .error .oneShot message [("error", .text c.message)]
  return 1

/-- Reconciles, and gives the code with which the run ends. -/
def perform (w : Surroundings σ) (d : ClusterDocument) (t : Settings) : Op (Account σ) Nat := do
  Op.record .info .oneShot "Starting logging reconciliation"
    [("cluster", .text d.identity.name), ("region", .text t.region), ("plan", .bool t.plan)]
  let p ← Provider.create w.cloud w.clock t
  let r ← Reconcile.result p t.plan d
  return if r.succeeded then 0 else 1

/-- One run; its value is the code with which it ends. -/
def run (w : Surroundings σ) : Op (Account σ) Nat :=
  match w.settings {} with
  | .error c => refuse "Configuration error" c
  | .ok t => do
    match ← Op.caught isReported (prepare w t) with
    | .error c => refuse "Failed to load cluster config" c
    | .ok (d, t) => perform w d t

/-- The rank from which on records are written. -/
def threshold (w : Surroundings σ) : Int :=
  match w.settings {} with
  | .ok t => t.levelRank?.getD Level.info.rank
  | .error _ => Level.info.rank

end ClusterOps.OneShot
