import ClusterOps.Files
import ClusterOps.Text.Case
import ClusterOps.Text.IntLiteral
import ClusterOps.Text.Quoted

/-
The parameters of a command line: how each is written, and what is accepted for
it. A parameter has a long name and may have a letter; a switch may have another
name that turns it off. What is written for a parameter is a text, or no more
than its name.
-/

namespace ClusterOps.CommandLine

/-- What is accepted for a parameter. -/
inductive Form where
  | text
  | word (choices : List String) (anyCase : Bool)
  | number
  | file
  | switch
deriving DecidableEq, Repr, Inhabited

/-- A parameter. -/
structure Parameter where
  name : String
  letter : Option Char := none
  offName : Option String := none
  form : Form := .text
  isRequired : Bool := false
deriving DecidableEq, Repr, Inhabited

/-- What was written for a parameter. -/
inductive Written where
  | text (s : String)
  | switched (on : Bool)
deriving DecidableEq, Repr, Inhabited

/-- What was accepted for a parameter. -/
inductive Accepted where
  | text (s : String)
  | number (n : Int)
  | switched (on : Bool)
deriving DecidableEq, Repr, Inhabited

/-- Why a text is not accepted. -/
inductive Misfit where
  | noChoice (given : String) (choices : List String)
  | noNumber (given : String)
  | directory (given : String)
deriving DecidableEq, Repr, Inhabited

/-- The wording of a misfit. -/
def Misfit.message : Misfit → String
  | .noChoice given choices =>
    Text.quoted given ++ " is not one of " ++ ", ".intercalate (choices.map Text.quoted) ++ "."
  | .noNumber given => Text.quoted given ++ " is not a valid integer."
  | .directory given => "File " ++ Text.quoted given ++ " is a directory."

namespace Parameter

/-- The short name of a letter. -/
def shortName (c : Char) : String := String.ofList ['-', c]

/-- The names under which complaints speak of a parameter. -/
def shown (p : Parameter) : String :=
  " / ".intercalate
    ((p.name :: (p.letter.map shortName).toList).map fun n => "'" ++ n ++ "'")

/-- Whether a value is to be written after the name. -/
def takesValue (p : Parameter) : Bool := p.form != .switch

/-- The long names. -/
def longNames (p : Parameter) : List String := p.name :: p.offName.toList

/-- A word as it is compared with the choices. -/
def folded (anyCase : Bool) (s : String) : String := if anyCase then Text.lower s else s

/-- The choice that a word stands for. -/
def choice (choices : List String) (anyCase : Bool) (s : String) : Except Misfit String :=
  match choices.find? fun c => folded anyCase c == folded anyCase s with
  | some c => .ok c
  | none => .error (.noChoice s (choices.map (folded anyCase)))

/-- What is accepted of a text; of a file only that it is no directory. -/
def acceptText (files : Files) (p : Parameter) (s : String) : Except Misfit Accepted :=
  match p.form with
  | .text | .switch => .ok (.text s)
  | .word choices anyCase => (choice choices anyCase s).map .text
  | .number => (Text.intLiteral? s).elim (.error (.noNumber s)) fun n => .ok (.number n)
  | .file => if files.isDirectory s then .error (.directory s) else .ok (.text s)

/-- What is accepted of what was written. -/
def accept (files : Files) (p : Parameter) : Written → Except Misfit Accepted
  | .switched on => .ok (.switched on)
  | .text s => p.acceptText files s

end Parameter

/-- The parameter with a long name, and whether the name turns it on. -/
def named? (ps : List Parameter) (name : String) : Option (Parameter × Bool) :=
  ps.findSome? fun p =>
    if p.name = name then some (p, true)
    else if p.offName = some name then some (p, false)
    else none

/-- The parameter with a letter. -/
def lettered? (ps : List Parameter) (c : Char) : Option Parameter :=
  ps.find? fun p => p.letter == some c

/-- A parameter that is found by a long name has that name. -/
theorem mem_longNames_of_named? {ps : List Parameter} {name : String} {p : Parameter} {on : Bool}
    (h : named? ps name = some (p, on)) : p ∈ ps ∧ name ∈ p.longNames := by
  obtain ⟨q, hq, e⟩ := List.exists_of_findSome?_eq_some h
  split at e
  · cases e
    exact ⟨hq, by simp_all [Parameter.longNames]⟩
  · split at e
    · cases e
      exact ⟨hq, by simp_all [Parameter.longNames]⟩
    · cases e

end ClusterOps.CommandLine
