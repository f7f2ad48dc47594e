import ClusterOps.Cloud
import ClusterOps.Facility
import ClusterOps.Text.IntLiteral

/-
A cloud that is computed. It knows some clusters, begins updates and finishes
them after so many looks at them, and lists clusters in pages. Answers can also
be scripted: for each operation there is a queue of steps, of which every call
takes the first, and a step can delay the computed answer, replace it, or keep
it from ever arriving. The effect of a computed call stands from the moment at
which it is made.
-/

namespace ClusterOps.Simulated

/-- A cluster of the cloud. -/
structure Cluster where
  name : String
  region : String
  status : Value
  version : Value
  enabled : List String
  createdAt : Value
deriving DecidableEq, Repr, Inhabited

/-- What an update changes. -/
inductive Change where
  | logging (enabled : List String)
  | version (version : String)
deriving DecidableEq, Repr, Inhabited

/-- The name of the kind of an update. -/
def Change.kind : Change → String
  | .logging _ => "LoggingUpdate"
  | .version _ => "VersionUpdate"

/-- An update that was begun. It can be looked at so many more times before it ends. -/
structure Update where
  id : String
  region : String
  cluster : String
  change : Change
  looks : Int
  terminal : Value
  status : Value
deriving DecidableEq, Repr, Inhabited

/-- A step of a script: a delay, or none if the answer never arrives, and an answer in place of the
computed one. -/
structure Step where
  delay : Option Rat
  answer : Option (Outcome Value)
deriving Repr, Inhabited

/-- The state of the cloud. -/
structure State where
  clusters : List Cluster
  updates : List Update
  looks : Int
  terminal : Value
  listFaults : List (String × Outcome Value)
  connectFaults : List (String × Outcome Unit)
  script : List (String × List Step)
deriving Repr, Inhabited

/-- The answer that something named does not exist. -/
def notFound (operation message : String) : Outcome Value :=
  .failed (.fault (.answered operation (Value.object [("Error", Value.object
    [("Code", .text "ResourceNotFoundException"), ("Message", .text message)])])))

/-- The answer that there is no such cluster. -/
def noCluster (operation name : String) : Outcome Value :=
  notFound operation ("No cluster found for name: " ++ name ++ ".")

namespace Cluster

/-- The description of a cluster. -/
def describe (c : Cluster) : Value :=
  Value.object [("name", .text c.name), ("status", c.status), ("version", c.version),
    ("createdAt", c.createdAt),
    ("arn", .text ("arn:aws:eks:" ++ c.region ++ ":123456789012:cluster/" ++ c.name)),
    ("endpoint", .text ("https://" ++ c.name ++ "." ++ c.region ++ ".eks.amazonaws.com")),
    ("logging", Request.logging c.enabled (Facility.others c.enabled Facility.supported))]

/-- Whether it is the cluster of a region and name. -/
def isAt (c : Cluster) (region name : String) : Bool := c.region == region && c.name == name

/-- The cluster after an update. -/
def changed (c : Cluster) : Change → Cluster
  | .logging enabled => { c with enabled := enabled }
  | .version version => { c with version := .text version }

end Cluster

/-- The description of an update. -/
def Update.describe (u : Update) : Value :=
  Value.object [("update", Value.object
    [("id", .text u.id), ("type", .text u.change.kind), ("status", u.status)])]

/-- The status of an update that goes on. -/
def inProgress : Value := .text "InProgress"

namespace State

/-- The cluster of a region and name. -/
def cluster? (s : State) (region name : String) : Option Cluster :=
  s.clusters.find? fun c => c.isAt region name

/-- Adds a cluster, or replaces the one of its region and name. -/
def put (s : State) (c : Cluster) : State :=
  if s.clusters.any fun d => d.isAt c.region c.name then
    { s with clusters := s.clusters.map fun d => if d.isAt c.region c.name then c else d }
  else { s with clusters := s.clusters ++ [c] }

/-- Deletes a cluster. -/
def delete (s : State) (region name : String) : State :=
  { s with clusters := s.clusters.filter fun c => !c.isAt region name }

/-- Begins an update. -/
def begin (s : State) (operation region name : String) (change : Change) :
    Outcome Value × State :=
  match s.cluster? region name with
  | none => (noCluster operation name, s)
  | some _ =>
    let u : Update := ⟨"u-" ++ toString (s.updates.length + 1), region, name, change, s.looks,
      s.terminal, inProgress⟩
    (.done u.describe, { s with updates := s.updates ++ [u] })

/-- Applies an update that was successful. -/
def apply (s : State) (u : Update) : State :=
  { s with clusters := s.clusters.map fun c =>
      if c.isAt u.region u.cluster then c.changed u.change else c }

/-- An update after one more look at it. -/
def look (u : Update) : Update :=
  if u.status == inProgress then
    { u with looks := u.looks - 1,
             status := if u.looks - 1 ≤ 0 then u.terminal else u.status }
  else u

/-- Looks at an update. -/
def describeUpdate (s : State) (name : String) (id : Value) : Outcome Value × State :=
  match s.updates.find? fun u => u.cluster == name && Value.text u.id == id with
  | none => (notFound "DescribeUpdate" ("No update found for ID: " ++ id.display), s)
  | some u =>
    let v := look u
    let s := { s with updates := s.updates.map fun w => if w.id == u.id then v else w }
    let ended := u.status == inProgress && v.status == .text "Successful"
    (.done v.describe, if ended then s.apply v else s)

/-- The index for which a token stands. -/
def tokenIndex : Value → Option Int
  | .text s => Text.intLiteral? s
  | .int n => some n
  | _ => none

/-- A page of the clusters of a region. -/
def list (s : State) (region : String) (size : Int) (token : Option Value) : Outcome Value :=
  match s.listFaults.lookup region with
  | some o => o
  | none =>
    match tokenIndex (token.getD (.int 0)) with
    | none =>
      .failed (.other "ValueError" ("invalid literal for int() with base 10: "
        ++ (token.getD .null).quoted))
    | some start =>
      let names := (s.clusters.filter fun c => c.region == region).map Cluster.name
      let stop := start + size
      let page := (names.drop start.toNat).take size.toNat
      .done (Value.object (("clusters", .texts page)
        :: if stop < names.length then [("nextToken", .text (toString stop))] else []))

/-- The computed answer to a request. -/
def compute (s : State) (region : String) (r : Request) : Outcome Value × State :=
  match r with
  | .describeCluster name =>
    match s.cluster? region name with
    | some c => (.done (Value.object [("cluster", c.describe)]), s)
    | none => (noCluster r.operation name, s)
  | .updateLogging name enabled _ => s.begin r.operation region name (.logging enabled)
  | .updateVersion name version => s.begin r.operation region name (.version version)
  | .describeUpdate name id => s.describeUpdate name id
  | .listClusters size token => (s.list region size token, s)

/-- Takes the next step of the script for an operation. -/
def nextStep (s : State) (operation : String) : Step × State :=
  match s.script.lookup operation with
  | some (step :: rest) =>
    (step, { s with script := s.script.map fun (op, steps) =>
        if op == operation then (op, rest) else (op, steps) })
  | _ => (⟨some 0, none⟩, s)

/-- The answer to a call. -/
def answer (s : State) (region : String) (r : Request) : Reply × State :=
  let (step, s) := s.nextStep r.operation
  match step.delay with
  | none => (⟨none, .hung⟩, s)
  | some delay =>
    match step.answer with
    | some outcome => (⟨some delay, outcome⟩, s)
    | none =>
      let (outcome, s) := s.compute region r
      (⟨some delay, outcome⟩, s)

end State

/-- The cloud that is computed. -/
def cloud : Cloud State where
  connect s region := ((s.connectFaults.lookup region).getD (.done ()), s)
  call s _ region r := s.answer region r

end ClusterOps.Simulated
