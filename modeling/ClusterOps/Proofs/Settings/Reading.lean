import ClusterOps.Settings.Environment

/-
What is read from an environment, field by field. The variables that hold numbers are
looked at first, whatever is given otherwise: the first of them that is no number is what
is complained of, and where there is none the settings are those in `reading`, with the
given fields in the place of their own (`ofEnvironment_eq`). Each field depends on its
own variables only (`value_reading`), and a field that is given on none (`value_replace`).
-/

namespace ClusterOps

/-! ## Fields -/

namespace Settings

/-- The fields of settings. -/
inductive Field where
  | region
  | clusterName
  | waitTimeout
  | pollInterval
  | listChunk
  | regions
  | maxConcurrency
  | plan
  | logLevel
deriving DecidableEq, Repr

/-- What a field holds. -/
abbrev Field.Value : Field → Type
  | .region | .clusterName | .logLevel => String
  | .waitTimeout | .pollInterval | .listChunk | .maxConcurrency => Int
  | .regions => List String
  | .plan => Bool

/-- The variables that a field is read from. -/
def Field.variables : Field → List String
  | .region => ["AWS_REGION", "AWS_DEFAULT_REGION"]
  | .clusterName => ["CLUSTER_NAME"]
  | .waitTimeout => ["WAIT_TIMEOUT"]
  | .pollInterval => ["UPDATE_POLL_INTERVAL"]
  | .listChunk => ["LIST_CHUNK_SIZE"]
  | .regions => ["ENUMERATION_REGIONS"]
  | .maxConcurrency => ["MAX_PARTITION_CONCURRENCY"]
  | .plan => ["APPROVE"]
  | .logLevel => ["LOG_LEVEL"]

/-- The value of a field. -/
def value (s : Settings) : (f : Field) → f.Value
  | .region => s.region
  | .clusterName => s.clusterName
  | .waitTimeout => s.waitTimeout
  | .pollInterval => s.pollInterval
  | .listChunk => s.listChunk
  | .regions => s.regions
  | .maxConcurrency => s.maxConcurrency
  | .plan => s.plan
  | .logLevel => s.logLevel

/-- The value that is given for a field, if one is. -/
def Overrides.value? (o : Overrides) : (f : Field) → Option f.Value
  | .region => o.region
  | .clusterName => o.clusterName
  | .waitTimeout => o.waitTimeout
  | .pollInterval => o.pollInterval
  | .listChunk => o.listChunk
  | .regions => o.regions
  | .maxConcurrency => o.maxConcurrency
  | .plan => o.plan
  | .logLevel => o.logLevel

variable {s t : Settings} {o : Overrides}

theorem eq_of_value (same : ∀ f, s.value f = t.value f) : s = t := by
  have region := same .region
  have clusterName := same .clusterName
  have waitTimeout := same .waitTimeout
  have pollInterval := same .pollInterval
  have listChunk := same .listChunk
  have regions := same .regions
  have maxConcurrency := same .maxConcurrency
  have plan := same .plan
  have logLevel := same .logLevel
  cases s
  cases t
  simp only [value] at *
  subst_vars
  rfl

/-- A field that is given has that value, and every other field keeps its own. -/
theorem value_replace (f : Field) : (s.replace o).value f = (o.value? f).getD (s.value f) := by
  cases f <;> rfl

theorem replace_congr (agree : ∀ f, o.value? f = none → s.value f = t.value f) :
    s.replace o = t.replace o := by
  refine eq_of_value fun f => ?_
  rw [value_replace, value_replace]
  cases given : o.value? f with
  | none => exact agree f given
  | some v => rfl

end Settings

/-! ## Variables that hold numbers -/

namespace Environment

open Settings

variable {env env' : Environment} {name : String}

/-- The variables that hold numbers, in the order in which they are read. -/
def numbers : List String :=
  ["WAIT_TIMEOUT", "UPDATE_POLL_INTERVAL", "LIST_CHUNK_SIZE", "MAX_PARTITION_CONCURRENCY"]

/-- A variable with its text, if that is no number. -/
def misread (env : Environment) (name : String) : Option (String × String) :=
  (env.lookup name).bind fun v => if (Text.intLiteral? v).isSome then none else some (name, v)

/-- The first variable that should hold a number and does not. -/
def firstMisread (env : Environment) : Option (String × String) := numbers.findSome? env.misread

/-- The number in a variable, or the default where there is none. -/
def numberOr (env : Environment) (name : String) (default : Int) : Int :=
  ((env.lookup name).bind Text.intLiteral?).getD default

theorem int_eq (env : Environment) (name : String) (default : Int) :
    env.int name default = match env.misread name with
      | some (name, v) => .error (.notInteger name v)
      | none => .ok (env.numberOr name default) := by
  unfold int misread numberOr
  cases env.lookup name with
  | none => rfl
  | some v =>
    cases number : Text.intLiteral? v with
    | none => simp [number]
    | some n => simp [number]

/-- The settings that the variables give, where every number can be read. -/
def reading (env : Environment) : Settings where
  region := orElse (env.text "AWS_REGION") (env.text "AWS_DEFAULT_REGION")
  clusterName := env.text "CLUSTER_NAME"
  waitTimeout := env.numberOr "WAIT_TIMEOUT" 1500
  pollInterval := env.numberOr "UPDATE_POLL_INTERVAL" 20
  listChunk := env.numberOr "LIST_CHUNK_SIZE" 100
  regions :=
    if (env.text "ENUMERATION_REGIONS").isEmpty then supportedRegions
    else Text.commaParts (env.text "ENUMERATION_REGIONS")
  maxConcurrency := env.numberOr "MAX_PARTITION_CONCURRENCY" 4
  plan := !env.flag "APPROVE" false
  logLevel := (env.lookup "LOG_LEVEL").getD "INFO"

/-- The variables are read whether or not their fields are given otherwise: the first number that
cannot be read is refused. -/
theorem unchecked_eq (env : Environment) :
    unchecked env = match env.firstMisread with
      | some (name, v) => .error (.notInteger name v)
      | none => .ok env.reading := by
  unfold unchecked firstMisread numbers
  simp only [int_eq, List.findSome?_cons, List.findSome?_nil]
  cases env.misread "WAIT_TIMEOUT" with
  | some first => rfl
  | none =>
    cases env.misread "UPDATE_POLL_INTERVAL" with
    | some first => rfl
    | none =>
      cases env.misread "LIST_CHUNK_SIZE" with
      | some first => rfl
      | none =>
        cases env.misread "MAX_PARTITION_CONCURRENCY" with
        | some first => rfl
        | none => rfl

theorem ofEnvironment_eq (env : Environment) (o : Overrides) :
    ofEnvironment env o = match env.firstMisread with
      | some (name, v) => .error (.notInteger name v)
      | none => (env.reading.replace o).check := by
  unfold ofEnvironment
  rw [unchecked_eq]
  cases env.firstMisread with
  | some first => rfl
  | none => rfl

/-! ## Fields and their variables -/

theorem text_congr (same : env.lookup name = env'.lookup name) :
    env.text name = env'.text name := by
  rw [text, text, same]

theorem numberOr_congr {default : Int} (same : env.lookup name = env'.lookup name) :
    env.numberOr name default = env'.numberOr name default := by
  rw [numberOr, numberOr, same]

theorem flag_congr {default : Bool} (same : env.lookup name = env'.lookup name) :
    env.flag name default = env'.flag name default := by
  rw [flag, flag, text_congr same]

theorem misread_congr (same : env.lookup name = env'.lookup name) :
    env.misread name = env'.misread name := by
  rw [misread, misread, same]

/-- What is read for a field depends on its variables only. -/
theorem value_reading {f : Field}
    (agree : ∀ name ∈ f.variables, env.lookup name = env'.lookup name) :
    env.reading.value f = env'.reading.value f := by
  cases f
  all_goals
    simp only [Field.variables, List.forall_mem_cons, List.not_mem_nil, false_imp_iff, implies_true,
      and_true] at agree
  case region =>
    simp only [value, reading]
    rw [text_congr agree.1, text_congr agree.2]
  case clusterName => exact text_congr agree
  case waitTimeout | pollInterval | listChunk | maxConcurrency => exact numberOr_congr agree
  case regions =>
    simp only [value, reading]
    rw [text_congr agree]
  case plan =>
    simp only [value, reading]
    rw [flag_congr agree]
  case logLevel => exact congrArg (Option.getD · "INFO") agree

end Environment

end ClusterOps
