import ClusterOps.Facility
import ClusterOps.Value

/-
Why something failed. Every failure that can reach an operator is one of these
causes; its wording is given in one place, and so is the word for its kind,
which log records carry.

A collaborator outside this library can fail in ways of its own. Such a failure
is kept as the word for its kind and its wording.
-/

namespace ClusterOps

/-- How the cloud refuses a call: it answers with an error, it is not reached, there are no
credentials to call it with, or the client that makes the call fails in another way, told by the
word for its kind and its wording. -/
inductive Fault where
  | answered (operation : String) (response : Value)
  | unreachable (url : String)
  | uncredentialed
  | client (kind text : String)
deriving DecidableEq, Repr, Inhabited

namespace Fault

/-- A part of the error in a response. -/
def errorPart (response : Value) (key : String) : Option Value :=
  (response.get? "Error").bind fun e => e.get? key

/-- The retries that were made, where the response says that no more are allowed. -/
def retries? (response : Value) : Option Value := do
  let about ← response.get? "ResponseMetadata"
  let reached ← about.get? "MaxAttemptsReached"
  if reached.isTruthy then about.get? "RetryAttempts" else none

/-- The wording of a fault. -/
def message : Fault → String
  | .answered operation response =>
    let part (key : String) : String := ((errorPart response key).getD (.text "Unknown")).display
    let suffix := match retries? response with
      | some n => " (reached max retries: " ++ n.display ++ ")"
      | none => ""
    "An error occurred (" ++ part "Code" ++ ") when calling the " ++ operation ++ " operation"
      ++ suffix ++ ": " ++ part "Message"
  | .unreachable url => "Could not connect to the endpoint URL: \"" ++ url ++ "\""
  | .uncredentialed => "Unable to locate credentials"
  | .client _ text => text

/-- The word for the kind of a fault. -/
def kind : Fault → String
  | .answered _ _ => "ClientError"
  | .unreachable _ => "EndpointConnectionError"
  | .uncredentialed => "NoCredentialsError"
  | .client kind _ => kind

/-- Whether the cloud answered that what was named does not exist. -/
def isNotFound : Fault → Bool
  | .answered _ response => errorPart response "Code" == some (.text "ResourceNotFoundException")
  | _ => false

end Fault

/-- Why something failed. -/
inductive Cause where
  | unknownFacility (name : String)
  | settings (text : String)
  | document (text : String)
  | provider (text : String)
  | notFound (text : String)
  | unexpectedResponse (text : String)
  | notActive (name status : Value)
  | operationFailed (resource : String) (status operation : Value)
  | operationTimeout (resource : String) (elapsed : Rat)
  | endlessListing (pages : Nat)
  | taskFailure (task : String) (inner : Cause)
  | fault (f : Fault)
  | other (kind text : String)
deriving DecidableEq, Repr, Inhabited

namespace Cause

/-- A quoted name. -/
def named (name : String) : String := "\"" ++ name ++ "\""

/-- The wording of a cause. -/
def message : Cause → String
  | .unknownFacility name => (Facility.Unknown.mk name).message
  | .settings text | .document text | .provider text | .notFound text
  | .unexpectedResponse text => text
  | .notActive name status =>
    "status of cluster " ++ named name.display ++ " is " ++ named status.display
      ++ ", has to be \"ACTIVE\""
  | .operationFailed resource status operation =>
    "operation on " ++ named resource
      ++ (if operation.isTruthy then " (operation " ++ operation.display ++ ")" else "")
      ++ " finished with status " ++ named status.display
  | .operationTimeout resource elapsed =>
    "timed out waiting for " ++ named resource ++ " after " ++ Rounding.fixed 1 elapsed ++ "s"
  | .endlessListing pages => "listing did not finish after " ++ toString pages ++ " pages"
  | .taskFailure task inner => "task " ++ Text.quoted task ++ " failed: " ++ inner.message
  | .fault f => f.message
  | .other _ text => text

/-- The word for the kind of a cause. -/
def kind : Cause → String
  | .unknownFacility _ => "UnknownFacilityError"
  | .settings _ => "ConfigurationError"
  | .document _ => "SpecLoadError"
  | .provider _ => "ControlPlaneError"
  | .notFound _ => "ControlPlaneNotFoundError"
  | .unexpectedResponse _ => "UnexpectedResponseError"
  | .notActive _ _ => "ControlPlaneNotActiveError"
  | .operationFailed _ _ _ => "OperationFailedError"
  | .operationTimeout _ _ => "OperationTimeoutError"
  | .endlessListing _ => "PaginationError"
  | .taskFailure _ _ => "TaskFailure"
  | .fault f => f.kind
  | .other kind _ => kind

/-- A field that a payload lacks. -/
def missingField (name : String) : Cause := .other "KeyError" (Text.quoted name)

/-- Data of one kind where the field of another was asked for. -/
def noAttribute (v : Value) (name : String) : Cause :=
  .other "AttributeError" ("'" ++ v.kindName ++ "' object has no attribute '" ++ name ++ "'")

/-- Whether the cloud itself is behind the cause, as opposed to the waiting for it. -/
def isProvider : Cause → Bool
  | .provider _ | .notFound _ | .unexpectedResponse _ | .notActive _ _ => true
  | _ => false

/-- Whether waiting for an update is behind the cause. -/
def isWait : Cause → Bool
  | .operationFailed _ _ _ | .operationTimeout _ _ => true
  | _ => false

/-- The cause inside a task failure, or the cause itself. -/
def unwrapped : Cause → Cause
  | .taskFailure _ inner => inner
  | c => c

/-- Whether the cause is the failure of a task. -/
def isTaskFailure : Cause → Bool
  | .taskFailure _ _ => true
  | _ => false

example : (Cause.taskFailure "a" (.operationTimeout "demo" (1 / 4))).message
    = "task 'a' failed: timed out waiting for \"demo\" after 0.2s" := by
  decide +kernel

end Cause

end ClusterOps
