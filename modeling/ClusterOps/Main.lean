import ClusterOps.CommandLine.Run
import ClusterOps.OneShot

/-
The programs: the command line, and the single reconciliation that is told by
variables. Here variables and files are read and what a run gives is printed;
all else is decided elsewhere. No cloud is attached, so that every call is
refused for want of credentials.
-/

namespace ClusterOps.Main

/-- Those of the variables that are set. -/
def readVariables (names : List String) : IO Environment :=
  names.filterMapM fun n => do return (← IO.getEnv n).map fun v => (n, v)

/-- What stands under a path. -/
def readEntry? (path : String) : IO (Option Entry) := do
  try
    let bytes ← IO.FS.readBinFile path
    return some (.file (bytes.toList.map UInt8.toNat))
  catch
    | .noFileOrDirectory .. => return none
    | _ => return some .directory

/-- The file under a path, if one is named. -/
def readFiles (path : String) : IO Files := do
  if path.isEmpty then return []
  else return ((← readEntry? path).map fun e => (Files.plainPath path, e)).toList

/-- What a run meets here. -/
def surroundings (env : Environment) (files : Files) : Surroundings Unit :=
  ⟨Cloud.closed, .binary64, env, files⟩

/-- The session in which a run begins. -/
def start : Session (Account Unit) := ⟨0, .new (), []⟩

/-- Prints a line for each record. -/
def printRecords (output : IO.FS.Stream) (log : List Record) : IO Unit :=
  log.forM fun r => output.putStrLn (Value.Json.compact r.toValue)

/-- The file that words name. -/
def fileOf (words : List String) : String :=
  match CommandLine.Command.read [] words with
  | .ok (_, _, c) => c.file?.getD ""
  | .error _ => ""

/-- Runs a command line. -/
def runWords (words : List String) : IO UInt32 := do
  let w := surroundings (← readVariables Settings.variableNames) (← readFiles (fileOf words))
  let (level, ending, s) := CommandLine.run w words start
  printRecords (← IO.getStderr) (Record.atLeast level.rank s.log)
  match ending with
  | some e =>
    IO.print e.output
    IO.eprint e.errors
    return e.code.toUInt32
  | none => return 1

/-- Runs the reconciliation that is told by variables. -/
def runOnce : IO UInt32 := do
  let env ← readVariables (Settings.variableNames ++ OneShot.variableNames)
  let w := surroundings env (← readFiles (env.text OneShot.fileVariable))
  let (outcome, s) := OneShot.run w start
  printRecords (← IO.getStdout) (Record.atLeast (OneShot.threshold w) s.log)
  return (outcome.value?.getD 1).toUInt32

end ClusterOps.Main

/-- Runs the words given to the program. -/
def main (words : List String) : IO UInt32 := ClusterOps.Main.runWords words
