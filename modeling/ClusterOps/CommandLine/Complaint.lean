import ClusterOps.CommandLine.Parameter
import ClusterOps.Text.Likeness

/-
What can be wrong with a command line. A complaint names the word that is wrong,
and for a name that is not known those that may have been meant.
-/

namespace ClusterOps.CommandLine

/-- A rule about parameters that are given together. -/
inductive Rule where
  | nameNeeded
  | nameBesideFile
  | switchBesideFile
  | nameBesideAllRegions
deriving DecidableEq, Repr, Inhabited

/-- The wording of a rule. -/
def Rule.message : Rule → String
  | .nameNeeded => "--name must be set"
  | .nameBesideFile => "--name cannot be used with --config-file"
  | .switchBesideFile => "log type flags cannot be used with --config-file"
  | .nameBesideAllRegions => "--name cannot be used with --all-regions"

/-- What is wrong with a command line. -/
inductive Complaint where
  | unknownOption (name : String) (alike : List String)
  | valueNeeded (name : String)
  | valueUnwanted (name : String)
  | misfit (p : Parameter) (m : Misfit)
  | missing (p : Parameter)
  | surplus (words : List String)
  | commandNeeded
  | unknownCommand (name : String) (alike : List String)
  | rule (r : Rule)
deriving DecidableEq, Repr, Inhabited

namespace Complaint

/-- The words that may have been meant. -/
def hint : List String → String
  | [] => ""
  | [w] => " Did you mean " ++ Text.quoted w ++ "?"
  | ws => " (Did you mean one of: " ++ ", ".intercalate (ws.map Text.quoted) ++ "?)"

/-- The wording of a complaint. -/
def message : Complaint → String
  | .unknownOption name alike => "No such option " ++ Text.quoted name ++ "." ++ hint alike
  | .valueNeeded name => "Option " ++ Text.quoted name ++ " requires an argument."
  | .valueUnwanted name => "Option " ++ Text.quoted name ++ " does not take a value."
  | .misfit p m => "Invalid value for " ++ p.shown ++ ": " ++ m.message
  | .missing p => "Missing option " ++ p.shown ++ "."
  | .surplus words =>
    "Got unexpected extra argument" ++ (if words.length = 1 then "" else "s") ++ " ("
      ++ " ".intercalate words ++ ")"
  | .commandNeeded => "Missing command."
  | .unknownCommand name alike => "No such command " ++ Text.quoted name ++ "." ++ hint alike
  | .rule r => r.message

/-- Whether the usage is shown before the complaint; it is not where only the value of an option is
at fault. -/
def showsUsage : Complaint → Bool
  | .valueNeeded _ | .valueUnwanted _ => false
  | _ => true

example : (Complaint.missing { name := "--name", letter := some 'n' }).message
    = "Missing option '--name' / '-n'." := by
  decide

end Complaint

end ClusterOps.CommandLine
