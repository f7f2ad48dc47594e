import ClusterOps.CommandLine.Command
import ClusterOps.Provider.Listing
import ClusterOps.Surroundings

/-
Running commands. A command that is refused prints why and changes nothing; one
that ran prints its result. Failures of the cloud, of a wait, of the settings
and of a file are refusals with a message of their own; others are not handled
and escape.
-/

namespace ClusterOps.CommandLine

/-- Why a command does not end with a result: the command line breaks a rule, something failed that
has a message, or the declaration made of the words has flaws. -/
inductive Refusal where
  | misused (r : Rule)
  | failed (message : String)
  | flawed (issues : List ClusterDocument.Issue)
deriving DecidableEq, Repr, Inhabited

/-- The result of a command: its code, what it prints, and warnings. -/
structure Printout where
  code : Nat
  output : String
  warnings : List String
deriving DecidableEq, Repr, Inhabited

/-- The work of a command. -/
abbrev Work (σ α : Type) := ExceptT Refusal (Op (Account σ)) α

namespace Work

variable {σ α : Type}

/-- Work that is refused. -/
def refuse (r : Refusal) : Work σ α := throw r

/-- An operation whose failures of one kind are refusals with their own message. -/
def refusing (isRefusal : Cause → Bool) (x : Op (Account σ) α) : Work σ α :=
  ExceptT.mk (do
    return (← Op.caught isRefusal x).mapError fun c => .failed c.message)

/-- An operation on the cloud. -/
def onCloud (x : Op (Account σ) α) : Work σ α := refusing (fun c => c.isProvider || c.isWait) x

/-- An operation none of whose failures is a refusal. -/
def lift (x : Op (Account σ) α) : Work σ α := refusing (fun _ => false) x

/-- Writes a record of the command line. -/
def note (level : Level) (message : String) : Work σ Unit :=
  lift (Op.record level .commandLine message [])

/-- The settings with what a command gives. -/
def settings (w : Surroundings σ) (o : Settings.Overrides) : Work σ Settings :=
  match w.settings o with
  | .ok t => return t
  | .error c => refuse (.failed c.message)

end Work

variable {σ : Type}

/-- Whether a text is given and not empty. -/
def isNamed (s : Option String) : Bool := !(s.getD "").isEmpty

/-- What a command says of the plan: only approval speaks against it. -/
def planOf (approve : Bool) : Option Bool := if approve then some false else none

/-- The place of a cluster in words. -/
def placed (name region : String) : String :=
  "cluster " ++ Cause.named name ++ " in " ++ Cause.named region

/-! ## The update of logging -/

namespace LoggingOrder

/-- Whether a cause is that a file holds no declaration. -/
def isDocument : Cause → Bool
  | .document _ => true
  | _ => false

/-- The declaration in a file, with the region that was asked for or else the one in the file. -/
def filed (w : Surroundings σ) (o : LoggingOrder) (path : String) :
    Work σ (ClusterDocument × Option String) := do
  if isNamed o.name then Work.refuse (.misused .nameBesideFile)
  else if o.all.isSome || !o.flags.isEmpty then Work.refuse (.misused .switchBesideFile)
  else
    let d ← Work.refusing isDocument (w.document path)
    let region := Environment.orElse (o.region.getD "") d.identity.region
    return (d, if region.isEmpty then none else some region)

/-- The declaration that the words make, with the region that was asked for. -/
def worded (o : LoggingOrder) : Work σ (ClusterDocument × Option String) :=
  if isNamed o.name then
    let types := Facility.ofFlags o.all (fun n => o.flags.lookup n) Facility.supported
    match ClusterDocument.new (o.name.getD "") (o.region.getD "") types none with
    | .ok d => return (d, o.region)
    | .error issues => Work.refuse (.flawed issues)
  else Work.refuse (.misused .nameNeeded)

/-- The declaration, with the region that was asked for. -/
def declaration (w : Surroundings σ) (o : LoggingOrder) :
    Work σ (ClusterDocument × Option String) :=
  match o.file with
  | some path => o.filed w path
  | none => o.worded

/-- Runs the update of logging. -/
def run (w : Surroundings σ) (o : LoggingOrder) : Work σ Printout := do
  let (d, region) ← o.declaration w
  let t ← Work.settings w
    { clusterName := some d.identity.name, region := region, plan := planOf o.approve }
  Work.note .info ("using region " ++ t.region)
  let d := { d with identity := { d.identity with region := t.region } }
  let p ← Work.lift (Provider.create w.cloud w.clock t)
  let r ← Work.onCloud (Reconcile.result p t.plan d)
  return ⟨if r.succeeded then 0 else 1, Value.Json.indented (.object r.toRecord) ++ "\n", []⟩

end LoggingOrder

/-! ## The listing of clusters -/

namespace ClusterQuery

/-- The warning about a region whose clusters could not be listed. -/
def warning (failure : String × Cause) : String :=
  "warning: failed to list clusters in region " ++ failure.1 ++ ": " ++ failure.2.message

/-- Shows one cluster. -/
def describe (p : Provider σ) (name : String) (form : OutputForm) : Work σ Printout := do
  let s ← Work.onCloud (p.getCluster name)
  let shown ← Work.lift (Op.ofExcept s.toRecord)
  let record := Value.object (shown ++ [("region", .text p.region)])
  return ⟨0, Records.print [record] form ["name", "region", "status", "version"], []⟩

/-- Shows a list of clusters. -/
def list (found : List ClusterSummary) (form : OutputForm) (warnings : List String) : Printout :=
  ⟨0, Records.print (found.map fun c => .object c.toRecord) form ["name", "region"], warnings⟩

/-- Runs the listing of clusters. -/
def run (w : Surroundings σ) (q : ClusterQuery) : Work σ Printout := do
  if isNamed q.name && q.allRegions then Work.refuse (.misused .nameBesideAllRegions)
  else
    let t ← Work.settings w { clusterName := q.name, region := q.region, listChunk := q.chunk }
    let p ← Work.lift (Provider.create w.cloud w.clock t)
    if isNamed q.name then describe p (q.name.getD "") q.form
    else if q.allRegions then
      let r ← Work.onCloud (p.clustersIn [])
      return list r.items q.form (r.failures.map warning)
    else return list (← Work.onCloud p.clusters) q.form []

end ClusterQuery

/-! ## Upgrades -/

namespace UpgradeOrder

/-- The words for an upgrade that is to be made. -/
def headline (o : UpgradeOrder) (t : Settings) (present : Value) : String :=
  (if t.plan then "(plan) " else "") ++ "upgrade " ++ placed o.name t.region
    ++ " control plane from version " ++ present.display ++ " to " ++ o.version

/-- What is printed after an upgrade. -/
def success (o : UpgradeOrder) : String :=
  Text.printed ("cluster " ++ Cause.named o.name ++ " upgraded to version " ++ o.version ++ "\n")

/-- Runs an upgrade. -/
def run (w : Surroundings σ) (o : UpgradeOrder) : Work σ Printout := do
  let t ← Work.settings w
    { clusterName := some o.name, region := o.region, plan := planOf o.approve }
  let p ← Work.lift (Provider.create w.cloud w.clock t)
  let s ← Work.onCloud (p.describeActive o.name)
  if s.version.same (.text o.version) then
    Work.note .info (placed o.name t.region ++ " is already at version " ++ o.version)
    return ⟨0, "", []⟩
  else
    Work.note .info (o.headline t s.version)
    if t.plan then
      Work.note .warning Reconcile.planAdvice
      return ⟨0, "", []⟩
    else
      Work.onCloud (p.upgrade o.name o.version)
      return ⟨0, o.success, []⟩

end UpgradeOrder

/-- Runs a command. -/
def Command.run (w : Surroundings σ) : Command → Work σ Printout
  | .updateLogging o => o.run w
  | .getCluster q => q.run w
  | .upgradeCluster o => o.run w

/-! ## Endings -/

/-- What leaves the program unhandled. -/
inductive Escape where
  | flaws (issues : List ClusterDocument.Issue)
  | failure (c : Cause)
  | cancellation
deriving Repr, Inhabited

/-- How the program ends: its code, what it prints as output and as errors behind its records, and
what escapes. -/
structure Ending where
  code : Nat
  output : String
  errors : String
  escape : Option Escape
deriving Repr, Inhabited

namespace Ending

/-- Lines of text, each ended. -/
def ofLines (lines : List String) : String :=
  Text.printed (String.join (lines.map fun l => l ++ "\n"))

/-- The ending of a reading that halted. -/
def ofHalt (h : Halt) : Ending := ⟨h.code, h.output version, Text.printed h.errors, none⟩

/-- The ending of a command that was refused. -/
def ofRefusal (p : Place) : Refusal → Ending
  | .misused r => ofHalt (.complaint p (.rule r))
  | .failed message => ⟨1, "", ofLines ["Error: " ++ message], none⟩
  | .flawed issues => ⟨1, "", "", some (.flaws issues)⟩

/-- The ending of a command that ran, if it ends. -/
def ofOutcome (p : Place) : Outcome (Except Refusal Printout) → Option Ending
  | .done (.ok r) => some ⟨r.code, r.output, ofLines r.warnings, none⟩
  | .done (.error r) => some (ofRefusal p r)
  | .failed c => some ⟨1, "", "", some (.failure c)⟩
  | .cancelled => some ⟨1, "", "", some .cancellation⟩
  | .hung => none

end Ending

/-- Runs a command line: the level of its records, how it ends, and the session then. -/
def run (w : Surroundings σ) (words : List String) (s : Session (Account σ)) :
    Level × Option Ending × Session (Account σ) :=
  match Command.read w.files words with
  | .error h => (.info, some (Ending.ofHalt h), s)
  | .ok (level, place, command) =>
    let (outcome, s) := (command.run w).run s
    (level, Ending.ofOutcome place outcome, s)

end ClusterOps.CommandLine
