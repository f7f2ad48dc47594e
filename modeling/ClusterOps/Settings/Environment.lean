import ClusterOps.Settings
import ClusterOps.Text.IntLiteral

/-
Settings from the variables of an environment. Variables that hold numbers are
read before anything is overridden, so that one which is no number is refused
even where its field is given otherwise.
-/

namespace ClusterOps

/-- The variables of an environment. -/
abbrev Environment := List (String × String)

namespace Environment

/-- The value of a variable, empty where there is none. -/
def text (env : Environment) (name : String) : String := (env.lookup name).getD ""

/-- The whole number in a variable. -/
def int (env : Environment) (name : String) (default : Int) : Except Settings.Error Int :=
  match env.lookup name with
  | none => .ok default
  | some value =>
    match Text.intLiteral? value with
    | some n => .ok n
    | none => .error (.notInteger name value)

/-- The truth value in a variable: `true`, `1` and `yes` in any case are true, every other text is
false, and no text at all leaves the default. -/
def flag (env : Environment) (name : String) (default : Bool) : Bool :=
  let value := Text.lower (env.text name)
  if value.isEmpty then default else ["true", "1", "yes"].contains value

/-- The first of two texts that is not empty. -/
def orElse (first second : String) : String := if first.isEmpty then second else first

end Environment

namespace Settings

/-- The variables that settings are read from. -/
def variableNames : List String :=
  ["AWS_REGION", "AWS_DEFAULT_REGION", "CLUSTER_NAME", "WAIT_TIMEOUT", "UPDATE_POLL_INTERVAL",
    "LIST_CHUNK_SIZE", "ENUMERATION_REGIONS", "MAX_PARTITION_CONCURRENCY", "APPROVE", "LOG_LEVEL"]

/-- The settings that the variables give, unchecked. -/
def unchecked (env : Environment) : Except Error Settings := do
  let default := forRegion (env.text "AWS_REGION")
  let waitTimeout ← env.int "WAIT_TIMEOUT" default.waitTimeout
  let pollInterval ← env.int "UPDATE_POLL_INTERVAL" default.pollInterval
  let listChunk ← env.int "LIST_CHUNK_SIZE" default.listChunk
  let listed := env.text "ENUMERATION_REGIONS"
  let maxConcurrency ← env.int "MAX_PARTITION_CONCURRENCY" default.maxConcurrency
  return {
    region := Environment.orElse (env.text "AWS_REGION") (env.text "AWS_DEFAULT_REGION")
    clusterName := env.text "CLUSTER_NAME"
    waitTimeout := waitTimeout
    pollInterval := pollInterval
    listChunk := listChunk
    regions := if listed.isEmpty then default.regions else Text.commaParts listed
    maxConcurrency := maxConcurrency
    plan := !env.flag "APPROVE" false
    logLevel := (env.lookup "LOG_LEVEL").getD default.logLevel }

/-- The settings that the variables and the overrides give, if they break no rule. -/
def ofEnvironment (env : Environment) (o : Overrides) : Except Error Settings := do
  (← unchecked env).withOverrides o

end Settings

end ClusterOps
