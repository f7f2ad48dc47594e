import ClusterOps.Cause
import ClusterOps.Text.Case
import ClusterOps.Value.Json

/-
Log records, and their written form: one JSON object on a line, with the time,
the level, the message, the place that wrote it, and the fields of the record. A
field of the record that bears one of the first four names replaces that value
and stays in its place.
-/

namespace ClusterOps

/-- How grave a record is. -/
inductive Level where
  | debug
  | info
  | warning
  | error
deriving DecidableEq, Repr, Inhabited

namespace Level

/-- The rank of a level, by which records are kept or dropped. -/
def rank : Level → Int
  | .debug => 10
  | .info => 20
  | .warning => 30
  | .error => 40

/-- The name of a level. -/
def name : Level → String
  | .debug => "DEBUG"
  | .info => "INFO"
  | .warning => "WARNING"
  | .error => "ERROR"

/-- The ranks that have names, by name. -/
def ranks : List (String × Int) :=
  [("CRITICAL", 50), ("FATAL", 50), ("ERROR", 40), ("WARN", 30), ("WARNING", 30), ("INFO", 20),
    ("DEBUG", 10), ("NOTSET", 0)]

/-- The rank of a level name in upper case. -/
def rankOf? (name : String) : Option Int := ranks.lookup name

/-- The name of a rank. -/
def nameOfRank (n : Int) : String :=
  if n == 50 then "CRITICAL"
  else if n == 40 then "ERROR"
  else if n == 30 then "WARNING"
  else if n == 20 then "INFO"
  else if n == 10 then "DEBUG"
  else if n == 0 then "NOTSET"
  else "Level " ++ toString n

end Level

/-! ## Setting up -/

/-- The state of the log: the rank below which records are dropped, the same for the libraries
that the program uses, and how many writers are installed. -/
structure LogSetup where
  root : Int
  libraries : Int
  writers : Nat
deriving DecidableEq, Repr, Inhabited

namespace LogSetup

/-- The state before anything is set up. -/
def start : LogSetup := ⟨30, 0, 0⟩

/-- Installs the writer and sets the level. A level that is not known leaves the ranks as they
were. -/
def setUp (s : LogSetup) (level : String) : Except Cause Unit × LogSetup :=
  let name := Text.upper level
  match Level.rankOf? name with
  | some n => (.ok (), ⟨n, 30, 1⟩)
  | none => (.error (.other "ValueError" ("Unknown level: " ++ Text.quoted name)),
      { s with writers := 1 })

end LogSetup

/-! ## Records -/

/-- The parts of the program that write records. -/
inductive Source where
  | oneShot
  | commandLine
  | provider
  | wait
  | reconcile
  | task
  | listing
  | document
deriving DecidableEq, Repr, Inhabited

/-- The name under which a part of the program writes records. -/
def Source.name : Source → String
  | .oneShot => "controlplane.main"
  | .commandLine => "controlplane.cli"
  | .provider => "controlplane.eks"
  | .wait => "controlplane.waiter"
  | .reconcile => "controlplane.reconciler"
  | .task => "controlplane.tasks"
  | .listing => "controlplane.enumeration"
  | .document => "controlplane.spec_loader"

/-- A log record; `failure` is the cause whose trace it carries. -/
structure Record where
  time : Rat
  level : Level
  source : Source
  message : String
  fields : List (String × Value)
  failure : Option Cause
deriving DecidableEq, Repr, Inhabited

namespace Record

/-- The attributes of a record that are its own and no fields. -/
def reserved : List String :=
  ["name", "msg", "args", "created", "filename", "funcName", "levelname", "levelno", "lineno",
    "module", "msecs", "pathname", "process", "processName", "relativeCreated", "stack_info",
    "exc_info", "exc_text", "thread", "threadName", "taskName", "message"]

/-- The object of a record. -/
def object (timestamp level message source : String) (fields : List (Value × Value)) : Value :=
  let base : List (Value × Value) :=
    [(.text "timestamp", .text timestamp), (.text "level", .text level),
      (.text "message", .text message), (.text "logger", .text source)]
  .map (fields.foldl
    (fun es (k, v) =>
      match k with
      | .text name => if reserved.contains name then es else Value.put es k v
      | _ => Value.put es k v)
    base)

/-- The time of a record as a moment after the epoch. -/
def timestamp (r : Record) : String := (Moment.ofSeconds r.time).isoZulu

/-- The records of at least a rank. -/
def atLeast (rank : Int) (log : List Record) : List Record :=
  log.filter fun r => decide (rank ≤ r.level.rank)

/-- The written form, with a mark where the trace of a failure would stand. -/
def toValue (r : Record) : Value :=
  let v := object r.timestamp r.level.name r.message r.source.name
    (r.fields.map fun (k, v) => (.text k, v))
  match r.failure with
  | none => v
  | some _ => .map (Value.put v.entries (.text "exception") (.bool true))

end Record

end ClusterOps
