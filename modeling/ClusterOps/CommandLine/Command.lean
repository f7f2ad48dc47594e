import ClusterOps.CommandLine.Menu
import ClusterOps.Facility.Flag
import ClusterOps.Log
import ClusterOps.Records

/-
The commands: what each of them is told, and how the words of a command line
make one. Commands stand in menus by what they are about.
-/

namespace ClusterOps.CommandLine

/-- What the update of the logging of a cluster is told. -/
structure LoggingOrder where
  name : Option String
  region : Option String
  file : Option String
  approve : Bool
  all : Option Bool
  flags : List (String × Bool)
deriving DecidableEq, Repr, Inhabited

/-- What the listing of clusters is told. -/
structure ClusterQuery where
  name : Option String
  region : Option String
  allRegions : Bool
  chunk : Option Int
  form : OutputForm
deriving DecidableEq, Repr, Inhabited

/-- What the upgrade of a cluster is told. -/
structure UpgradeOrder where
  name : String
  region : Option String
  version : String
  approve : Bool
deriving DecidableEq, Repr, Inhabited

/-- A command. -/
inductive Command where
  | updateLogging (o : LoggingOrder)
  | getCluster (q : ClusterQuery)
  | upgradeCluster (o : UpgradeOrder)
deriving DecidableEq, Repr, Inhabited

/-! ## Parameters -/

/-- The name of the program. -/
def program : String := "cpctl"

/-- The version of the program. -/
def version : String := program ++ ", version 0.1.0"

/-- The levels that can be chosen. -/
def levels : List Level := [.debug, .info, .warning, .error]

/-- The parameter for the name of a cluster. -/
def nameParameter : Parameter := { name := "--name", letter := some 'n' }

/-- The parameter for a region. -/
def regionParameter : Parameter := { name := "--region", letter := some 'r' }

/-- The parameter that has changes applied. -/
def approveSwitch : Parameter := { name := "--approve", form := .switch }

/-- The switch for and against a facility, or for and against all. -/
def facilitySwitch (name : String) : Parameter :=
  { name := "--" ++ name, offName := some ("--no-" ++ name), form := .switch }

/-- The parameters of the program as a whole. -/
def programParameters : List Parameter :=
  [versionSwitch, { name := "--log-level", form := .word (levels.map Level.name) true }]

/-- The parameters of the update of logging. -/
def loggingParameters : List Parameter :=
  [nameParameter, regionParameter, { name := "--config-file", letter := some 'f', form := .file },
    approveSwitch, facilitySwitch "all"] ++ Facility.supported.map facilitySwitch

/-- The parameters of the listing of clusters. -/
def queryParameters : List Parameter :=
  [nameParameter, regionParameter,
    { name := "--all-regions", letter := some 'A', form := .switch },
    { name := "--chunk-size", form := .number },
    { name := "--output", letter := some 'o',
      form := .word (OutputForm.all.map OutputForm.name) false }]

/-- The parameters of an upgrade. -/
def upgradeParameters : List Parameter :=
  [{ nameParameter with isRequired := true }, regionParameter,
    { name := "--version", isRequired := true }, approveSwitch]

/-! ## From answers to commands -/

/-- What the update of logging is told. -/
def LoggingOrder.ofAnswers (a : Answers) : LoggingOrder where
  name := a.text? "--name"
  region := a.text? "--region"
  file := a.text? "--config-file"
  approve := (a.switch? "--approve").getD false
  all := a.switch? "--all"
  flags := Facility.supported.filterMap fun n => (a.switch? ("--" ++ n)).map fun on => (n, on)

/-- What the listing of clusters is told. -/
def ClusterQuery.ofAnswers (a : Answers) : ClusterQuery where
  name := a.text? "--name"
  region := a.text? "--region"
  allRegions := (a.switch? "--all-regions").getD false
  chunk := a.number? "--chunk-size"
  form := ((a.text? "--output").bind OutputForm.ofName?).getD .table

/-- What an upgrade is told. -/
def UpgradeOrder.ofAnswers (a : Answers) : UpgradeOrder where
  name := (a.text? "--name").getD ""
  region := a.text? "--region"
  version := (a.text? "--version").getD ""
  approve := (a.switch? "--approve").getD false

/-- The level from which on records are written. -/
def levelOf (a : Answers) : Level :=
  ((a.text? "--log-level").bind fun n => levels.find? fun l => l.name == n).getD .info

/-! ## From words to commands -/

/-- Where a command stands, and how its answers make it. -/
structure Entrance where
  place : Place
  make : Answers → Command

/-- The place that a path from the program leads to. -/
def below (path : String) : String := program ++ " " ++ path

/-- The menu of utilities. -/
def utilities : Menu Entrance :=
  ⟨.menu (below "utils") [],
    [("update-cluster-logging",
      ⟨.command (below "utils update-cluster-logging") loggingParameters,
        fun a => .updateLogging (.ofAnswers a)⟩)]⟩

/-- The menu of what can be shown. -/
def queries : Menu Entrance :=
  ⟨.menu (below "get") [],
    [("cluster", ⟨.command (below "get cluster") queryParameters,
      fun a => .getCluster (.ofAnswers a)⟩)]⟩

/-- The menu of what can be upgraded. -/
def upgrades : Menu Entrance :=
  ⟨.menu (below "upgrade") [],
    [("cluster", ⟨.command (below "upgrade cluster") upgradeParameters,
      fun a => .upgradeCluster (.ofAnswers a)⟩)]⟩

/-- The menu of the program. -/
def top : Menu (Menu Entrance) :=
  ⟨.menu program programParameters,
    [("utils", utilities), ("get", queries), ("upgrade", upgrades)]⟩

/-- The command that words make, with the level of its records. -/
def Command.read (files : Files) (words : List String) :
    Except Halt (Level × Place × Command) := do
  let (answers, menu, words) ← top.choose files words
  let (_, entrance, words) ← menu.choose files words
  let given ← entrance.place.finish files words
  return (levelOf answers, entrance.place, entrance.make given)

/-- The file that a command reads. -/
def Command.file? : Command → Option String
  | .updateLogging o => o.file
  | _ => none

example : ((Command.read [] ["--log-level", "Debug", "upgrade", "cluster", "-n", "a",
    "--version=2"]).toOption.map fun (l, _, c) => (l, c))
    = some (.debug, .upgradeCluster ⟨"a", none, "2", false⟩) := by
  decide +kernel

end ClusterOps.CommandLine
