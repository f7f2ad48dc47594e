import ClusterOps.CommandLine.Scan

/-
Places in a command line. Each word of a command leads to a place with options
of its own: a menu, from which another word leads on, or at last a command. A
reading halts at a place where help or the version is asked for, or where
something is wrong.
-/

namespace ClusterOps.CommandLine

/-- A place: the words that lead to it, what is written after them, and the options there. -/
structure Place where
  path : String
  form : String
  parameters : List Parameter
deriving DecidableEq, Repr, Inhabited

/-- The switch that asks for help. -/
def helpSwitch : Parameter := { name := "--help", form := .switch }

/-- The switch that asks for the version. -/
def versionSwitch : Parameter := { name := "--version", form := .switch }

namespace Place

/-- The place of a command. -/
def command (path : String) (parameters : List Parameter) : Place :=
  ⟨path, "[OPTIONS]", parameters ++ [helpSwitch]⟩

/-- The place of a menu. -/
def menu (path : String) (parameters : List Parameter) : Place :=
  ⟨path, "[OPTIONS] COMMAND [ARGS]...", parameters ++ [helpSwitch]⟩

/-- The line that tells how a place is used. -/
def usage (p : Place) : String := "Usage: " ++ p.path ++ " " ++ p.form

/-- The line that tells where to find help. -/
def invitation (p : Place) : String := "Try '" ++ p.path ++ " --help' for help."

end Place

/-- Why a reading halts before there is a command. -/
inductive Halt where
  | help (p : Place) (asked : Bool)
  | version
  | complaint (p : Place) (c : Complaint)
deriving DecidableEq, Repr, Inhabited

namespace Halt

/-- The code with which the program ends. -/
def code : Halt → Nat
  | .help _ asked => if asked then 0 else 2
  | .version => 0
  | .complaint _ _ => 2

/-- What is printed as output. -/
def output (version : String) : Halt → String
  | .help p true => p.usage ++ "\n"
  | .version => version ++ "\n"
  | _ => ""

/-- The lines of a complaint. -/
def complaintLines (p : Place) (c : Complaint) : List String :=
  (if c.showsUsage then [p.usage, p.invitation, ""] else []) ++ ["Error: " ++ c.message]

/-- What is printed as an error. -/
def errors : Halt → String
  | .help p false => p.usage ++ "\n"
  | .complaint p c => "\n".intercalate (complaintLines p c) ++ "\n"
  | _ => ""

end Halt

/-- The first thing that is asked for instead of a command. -/
def asked? (p : Place) (s : Scan) : Option Halt :=
  s.written.findSome? fun (name, w) =>
    if w ≠ .switched true then none
    else if name = helpSwitch.name then some (.help p true)
    else if name = versionSwitch.name then some .version
    else none

/-- Reads the words behind a place: the options there, and what is left. -/
def Place.enter (p : Place) (files : Files) (mixed : Bool) (words : List String) :
    Except Halt (Answers × List String) := do
  let s ← (scan p.parameters mixed words).mapError (.complaint p)
  match asked? p s with
  | some h => .error h
  | none => return (← (s.settle files (s.order p.parameters)).mapError (.complaint p), s.others)

/-- Reads the words behind a command, none of which may be left. -/
def Place.finish (p : Place) (files : Files) (words : List String) : Except Halt Answers := do
  let (answers, left) ← p.enter files true words
  if left.isEmpty then return answers else .error (.complaint p (.surplus left))

/-- A menu: its place, and the words that lead on. -/
structure Menu (α : Type) where
  place : Place
  members : List (String × α)
deriving Repr, Inhabited

/-- Reads the words behind a menu: the options there, where the next word leads, and what is left.
A word that leads nowhere is read as an option once more, because two dashes can stand before
it. -/
def Menu.choose {α : Type} (m : Menu α) (files : Files) (words : List String) :
    Except Halt (Answers × α × List String) := do
  if words.isEmpty then .error (.help m.place false)
  else
    let (answers, left) ← m.place.enter files false words
    match left with
    | [] => .error (.complaint m.place .commandNeeded)
    | word :: rest =>
      match m.members.lookup word with
      | some a => return (answers, a, rest)
      | none =>
        let _ ← m.place.enter files false left
        .error (.complaint m.place
          (.unknownCommand word (Text.closest word (m.members.map Prod.fst))))

end ClusterOps.CommandLine
