import ClusterOps.Facility
import ClusterOps.Payload

/-
What the cloud says of a control plane. Its log facilities are given in groups,
each on or off; a facility that is in a group that is on counts as on, whatever
other groups say, so the facilities that are on and those that are off have
nothing in common.
-/

namespace ClusterOps

/-- A group of log facilities that are on or off together. -/
structure LogGroup where
  types : List Value
  enabled : Bool
deriving DecidableEq, Repr, Inhabited

/-- What the cloud says of a control plane; every field is as it came. -/
structure Snapshot where
  name : Value
  status : Value
  version : Value
  endpoint : Value
  arn : Value
  createdAt : Value
  logging : List LogGroup
deriving DecidableEq, Repr, Inhabited

namespace LogGroup

/-- The group that a payload describes. -/
def ofPayload (v : Value) : Except Cause LogGroup := do
  let types ← Payload.elements (← Payload.field v "types")
  return ⟨types, (← Payload.field v "enabled").isTruthy⟩

end LogGroup

namespace Snapshot

/-- The groups in a payload. -/
def groups (cluster : Value) : Except Cause (List LogGroup) := do
  let logging ← Payload.part cluster "logging"
  (← Payload.elements (← Payload.field logging "clusterLogging")).mapM LogGroup.ofPayload

/-- The snapshot that a payload describes. -/
def ofPayload (cluster : Value) : Except Cause Snapshot := do
  let logging ← groups cluster
  return {
    name := (← Payload.field? cluster "name").getD (.text "")
    status := (← Payload.field? cluster "status").getD (.text "")
    version := ← Payload.field cluster "version"
    endpoint := ← Payload.field cluster "endpoint"
    arn := ← Payload.field cluster "arn"
    createdAt := ← Payload.field cluster "createdAt"
    logging := logging }

/-- The written form of the time of creation. -/
def created (s : Snapshot) : Except Cause Value :=
  match s.createdAt with
  | .moment m => .ok (.text m.iso)
  | .date d => .ok (.text d.iso)
  | v => if v.isTruthy then .error (Cause.noAttribute v "isoformat") else .ok .null

/-- The snapshot as a record for an operator. -/
def toRecord (s : Snapshot) : Except Cause (List (String × Value)) := do
  return [("name", s.name), ("status", s.status), ("version", s.version),
    ("endpoint", s.endpoint), ("arn", s.arn), ("createdAt", ← s.created)]

/-! ## The facilities observed -/

/-- The name of a facility in a group. -/
def facility (v : Value) : Except Cause String :=
  match v with
  | .null => .error (.unexpectedResponse "unexpected response from EKS API - nil string")
  | v =>
    if v.isKey then .ok v.display
    else .error (.other "TypeError" ("unhashable type: '" ++ v.kindName ++ "'"))

/-- The names of the facilities of each group. -/
def named (groups : List LogGroup) : Except Cause (List (List String × Bool)) :=
  groups.mapM fun g => do return (← g.types.mapM facility, g.enabled)

/-- The facilities that are on, and those that are only in groups that are off. -/
def split (groups : List (List String × Bool)) : Facility.Observed :=
  let on := Facility.distinct ((groups.filter fun g => g.2).flatMap Prod.fst)
  let off := Facility.distinct ((groups.filter fun g => !g.2).flatMap Prod.fst)
  ⟨on, Facility.others on off⟩

/-- The facilities that a snapshot reports. -/
def observed (s : Snapshot) : Except Cause Facility.Observed := (named s.logging).map split

/-- Nothing is both on and off. -/
theorem split_disjoint (groups : List (List String × Bool)) (n : String)
    (h : n ∈ (split groups).disabled) : n ∉ (split groups).enabled :=
  (Facility.mem_others.1 h).2

example : split [(["audit", "api"], false), (["api"], true)] = ⟨["api"], ["audit"]⟩ := by decide

end Snapshot

end ClusterOps
