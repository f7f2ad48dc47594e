import ClusterOps.Log
import ClusterOps.Settings.Grammar
import ClusterOps.Text.Case

/-
The settings of a run. All rules are checked at once, before anything is sent to
the cloud, and every rule that is broken is named, in a fixed order. Settings
that are checked stay checked when fields are replaced, because a replacement is
checked like the first settings.
-/

namespace ClusterOps

/-- The settings of a run. -/
structure Settings where
  region : String
  clusterName : String
  waitTimeout : Int
  pollInterval : Int
  listChunk : Int
  regions : List String
  maxConcurrency : Int
  plan : Bool
  logLevel : String
deriving DecidableEq, Repr, Inhabited

namespace Settings

/-- The regions that are searched unless others are named. -/
def supportedRegions : List String :=
  ["us-east-1", "us-east-2", "us-west-2", "eu-west-1", "eu-west-2", "eu-west-3", "eu-north-1",
    "eu-central-1", "ap-northeast-1", "ap-northeast-2", "ap-southeast-1", "ap-southeast-2",
    "ap-south-1"]

/-- The settings for a region where nothing else is given. -/
def forRegion (region : String) : Settings where
  region := region
  clusterName := ""
  waitTimeout := 1500
  pollInterval := 20
  listChunk := 100
  regions := supportedRegions
  maxConcurrency := 4
  plan := true
  logLevel := "INFO"

/-- The longest name of a cluster, in characters. -/
def maxNameLength : Nat := 100

/-! ## Rules -/

/-- The rules that settings can break. -/
inductive Issue where
  | noRegion
  | badRegion (region : String)
  | longName
  | badName (name : String)
  | waitTimeout
  | pollInterval
  | intervalExceedsTimeout
  | listChunk
  | noRegions
  | badListed (region : String)
  | concurrency
  | logLevel (level : String)
deriving DecidableEq, Repr, Inhabited

/-- The wording of a broken rule. -/
def Issue.message : Issue → String
  | .noRegion => "AWS_REGION is required"
  | .badRegion r => "AWS_REGION must be a valid region: " ++ r
  | .longName => "CLUSTER_NAME exceeds maximum length of " ++ toString maxNameLength
  | .badName n => "CLUSTER_NAME must match pattern ^[0-9A-Za-z][A-Za-z0-9\\-_]*$: " ++ n
  | .waitTimeout => "WAIT_TIMEOUT must be between 1 and 7200 seconds"
  | .pollInterval => "UPDATE_POLL_INTERVAL must be between 1 and 300 seconds"
  | .intervalExceedsTimeout => "UPDATE_POLL_INTERVAL cannot exceed WAIT_TIMEOUT"
  | .listChunk => "LIST_CHUNK_SIZE must be between 1 and 100"
  | .noRegions => "ENUMERATION_REGIONS must name at least one region"
  | .badListed r => "ENUMERATION_REGIONS contains an invalid region: " ++ r
  | .concurrency => "MAX_PARTITION_CONCURRENCY must be at least 1"
  | .logLevel l => "LOG_LEVEL is not a logging level: " ++ l

/-- The rank of the log level, if it is one. -/
def levelRank? (s : Settings) : Option Int := Level.rankOf? (Text.upper s.logLevel)

/-- What is wrong with the region. -/
def regionIssues (s : Settings) : List Issue :=
  if s.region.isEmpty then [.noRegion]
  else if isRegion s.region then [] else [.badRegion s.region]

/-- What is wrong with the name of the cluster; it may be left out. -/
def nameIssues (s : Settings) : List Issue :=
  if s.clusterName.isEmpty then []
  else if maxNameLength < s.clusterName.length then [.longName]
  else if isClusterName s.clusterName then [] else [.badName s.clusterName]

/-- What is wrong with the times. The interval is compared with the timeout only when it is in
its own bounds. -/
def timeIssues (s : Settings) : List Issue :=
  (if 1 ≤ s.waitTimeout ∧ s.waitTimeout ≤ 7200 then [] else [.waitTimeout])
    ++ (if 1 ≤ s.pollInterval ∧ s.pollInterval ≤ 300 then
          (if s.waitTimeout < s.pollInterval then [.intervalExceedsTimeout] else [])
        else [.pollInterval])

/-- What is wrong with the listing. -/
def listingIssues (s : Settings) : List Issue :=
  (if 1 ≤ s.listChunk ∧ s.listChunk ≤ 100 then [] else [.listChunk])
    ++ (if s.regions.isEmpty then [.noRegions] else [])
    ++ (s.regions.filter fun r => !isRegion r).map .badListed
    ++ (if s.maxConcurrency < 1 then [.concurrency] else [])

/-- The rules that are broken, in their order. -/
def issues (s : Settings) : List Issue :=
  s.regionIssues ++ s.nameIssues ++ s.timeIssues ++ s.listingIssues
    ++ (if s.levelRank?.isSome then [] else [.logLevel s.logLevel])

/-- Why there are no settings: a variable is not a number, or rules are broken. -/
inductive Error where
  | notInteger (name value : String)
  | invalid (issues : List Issue)
deriving DecidableEq, Repr, Inhabited

/-- The wording of the error. -/
def Error.message : Error → String
  | .notInteger name value => name ++ " must be an integer: " ++ value
  | .invalid issues =>
    "Configuration validation failed:\n  - " ++ "\n  - ".intercalate (issues.map Issue.message)

/-- The settings, if no rule is broken. -/
def check (s : Settings) : Except Error Settings :=
  match s.issues with
  | [] => .ok s
  | broken => .error (.invalid broken)

/-! ## Replacing fields -/

/-- New values for some of the fields. -/
structure Overrides where
  region : Option String := none
  clusterName : Option String := none
  waitTimeout : Option Int := none
  pollInterval : Option Int := none
  listChunk : Option Int := none
  regions : Option (List String) := none
  maxConcurrency : Option Int := none
  plan : Option Bool := none
  logLevel : Option String := none
deriving DecidableEq, Repr, Inhabited

/-- The settings with the given fields replaced, unchecked. -/
def replace (s : Settings) (o : Overrides) : Settings where
  region := o.region.getD s.region
  clusterName := o.clusterName.getD s.clusterName
  waitTimeout := o.waitTimeout.getD s.waitTimeout
  pollInterval := o.pollInterval.getD s.pollInterval
  listChunk := o.listChunk.getD s.listChunk
  regions := o.regions.getD s.regions
  maxConcurrency := o.maxConcurrency.getD s.maxConcurrency
  plan := o.plan.getD s.plan
  logLevel := o.logLevel.getD s.logLevel

/-- The settings with the given fields replaced, if they break no rule. -/
def withOverrides (s : Settings) (o : Overrides) : Except Error Settings := (s.replace o).check

/-- Checked settings break no rule. -/
theorem issues_of_check {s t : Settings} (h : s.check = .ok t) : t = s ∧ s.issues = [] := by
  unfold check at h
  split at h
  · exact ⟨(Except.ok.inj h).symm, by assumption⟩
  · cases h

end Settings

end ClusterOps
