import ClusterOps.Outcome

/-
The cloud as this library sees it: a place that answers calls. A call goes to a
region, changes the cloud at the moment it is made, and is answered after some
time or never. Before the first call to a region a connection to it is made.

What the cloud does is not fixed here: a cloud is any pair of functions that
connect and answer. An account keeps the cloud together with all that was ever
asked of it.
-/

namespace ClusterOps

/-- What can be asked of the cloud. -/
inductive Request where
  | describeCluster (name : String)
  | updateLogging (name : String) (enabled disabled : List String)
  | updateVersion (name version : String)
  | describeUpdate (name : String) (update : Value)
  | listClusters (size : Int) (token : Option Value)
deriving DecidableEq, Repr, Inhabited

namespace Request

/-- The name of the operation that a request is for. -/
def operation : Request → String
  | .describeCluster _ => "DescribeCluster"
  | .updateLogging _ _ _ => "UpdateClusterConfig"
  | .updateVersion _ _ => "UpdateClusterVersion"
  | .describeUpdate _ _ => "DescribeUpdate"
  | .listClusters _ _ => "ListClusters"

/-- The group of facilities that a request for a logging update names, as it is sent. -/
def group (types : List String) (enabled : Bool) : Value :=
  Value.object [("types", .texts types), ("enabled", .bool enabled)]

/-- The logging configuration that is sent: what to enable, then what to disable. -/
def logging (enabled disabled : List String) : Value :=
  Value.object [("clusterLogging", .list [group enabled true, group disabled false])]

/-- The arguments of a request, as they are sent. -/
def arguments : Request → Value
  | .describeCluster name => Value.object [("name", .text name)]
  | .updateLogging name enabled disabled =>
    Value.object [("name", .text name), ("logging", logging enabled disabled)]
  | .updateVersion name version =>
    Value.object [("name", .text name), ("version", .text version)]
  | .describeUpdate name update => Value.object [("name", .text name), ("updateId", update)]
  | .listClusters size token =>
    Value.object (("maxResults", .int size) :: (token.map fun t => [("nextToken", t)]).getD [])

/-- The cluster that a request names. -/
def cluster? : Request → Option String
  | .describeCluster name | .updateLogging name _ _ | .updateVersion name _
  | .describeUpdate name _ => some name
  | .listClusters _ _ => none

/-- Whether the request is one to change a cluster. -/
def isUpdate : Request → Bool
  | .updateLogging _ _ _ | .updateVersion _ _ => true
  | _ => false

end Request

/-- The answer to a call and the seconds after which it arrives; without them it never does. -/
structure Reply where
  delay : Option Rat
  outcome : Outcome Value
deriving DecidableEq, Repr, Inhabited

/-- How a cloud behaves, on its states `σ`. A call is told the time and the region. -/
structure Cloud (σ : Type) where
  connect : σ → String → Outcome Unit × σ
  call : σ → Rat → String → Request → Reply × σ

/-- The cloud as it is met without credentials: every call is refused at once. -/
def Cloud.closed : Cloud Unit where
  connect _ _ := (.done (), ())
  call _ _ _ _ := (⟨some 0, .failed (.fault .uncredentialed)⟩, ())

/-- A call that was made, and the answer to it. -/
structure Call where
  time : Rat
  region : String
  request : Request
  reply : Reply
deriving DecidableEq, Repr, Inhabited

/-- The state of the cloud, the calls and the connections made so far, the last one first, and the
regions whose connection is kept for use. -/
structure Account (σ : Type) where
  cloud : σ
  recent : List Call
  recentConnections : List String
  kept : List String
deriving Repr, Inhabited

namespace Account

variable {σ : Type}

/-- The account of which nothing was asked. -/
def new (cloud : σ) : Account σ := ⟨cloud, [], [], []⟩

/-- The calls in the order in which they were made. -/
def calls (a : Account σ) : List Call := a.recent.reverse

/-- The regions to which connections were made, in their order. -/
def connections (a : Account σ) : List String := a.recentConnections.reverse

/-- Makes a call. -/
def send (cloud : Cloud σ) (now : Rat) (region : String) (r : Request) (a : Account σ) :
    Reply × Account σ :=
  let (reply, state) := cloud.call a.cloud now region r
  (reply, { a with cloud := state, recent := ⟨now, region, r, reply⟩ :: a.recent })

/-- Makes a connection. -/
def connect (cloud : Cloud σ) (region : String) (a : Account σ) : Outcome Unit × Account σ :=
  let (outcome, state) := cloud.connect a.cloud region
  (outcome, { a with cloud := state, recentConnections := region :: a.recentConnections })

/-- Keeps the connection to a region. -/
def keep (region : String) (a : Account σ) : Account σ :=
  if a.kept.contains region then a else { a with kept := a.kept ++ [region] }

/-- A call is added behind those made before. -/
@[simp] theorem calls_send (cloud : Cloud σ) (now : Rat) (region : String) (r : Request)
    (a : Account σ) : (a.send cloud now region r).2.calls
      = a.calls ++ [⟨now, region, r, (a.send cloud now region r).1⟩] := by
  simp [send, calls]

/-- Connecting is no call. -/
@[simp] theorem calls_connect (cloud : Cloud σ) (region : String) (a : Account σ) :
    (a.connect cloud region).2.calls = a.calls := rfl

end Account

end ClusterOps
