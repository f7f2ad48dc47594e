import ClusterOps.CommandLine.Complaint

/-
Reading the words of a command line against its parameters. A word that begins
with a dash and goes on is an option: a long name, to which a value can be
attached behind an equals sign, or a dash and letters, of which one that takes a
value takes the rest of the word. A value that is not attached is the next word,
whatever it is. Two dashes end the options, and where options and other words
may not be mixed so does the first other word.

What was written is then settled: parameters in the order of their first
appearance, and behind them those that were not given. The first complaint
counts. Of what was written for one parameter the last counts.
-/

namespace ClusterOps.CommandLine

/-- What was written for parameters, by their names and in order, and the other words. -/
structure Scan where
  written : List (String × Written)
  others : List String
deriving DecidableEq, Repr, Inhabited

/-- What an option comes to: what it writes, and the parameter that still waits for its value, with
the name that it was called by. -/
structure OptionWord where
  written : List (String × Written)
  waiting : Option (Parameter × String)
deriving DecidableEq, Repr, Inhabited

/-- The letters behind a dash. -/
def readLetters (ps : List Parameter) : List Char → Except Complaint OptionWord
  | [] => .ok ⟨[], none⟩
  | c :: rest =>
    match lettered? ps c with
    | none => .error (.unknownOption (Parameter.shortName c) [])
    | some p =>
      if p.takesValue then
        if rest.isEmpty then .ok ⟨[], some (p, Parameter.shortName c)⟩
        else .ok ⟨[(p.name, .text (String.ofList rest))], none⟩
      else
        (readLetters ps rest).map fun w =>
          { w with written := (p.name, .switched true) :: w.written }

/-- A word cut at its first equals sign. -/
def cut (word : String) : String × Option String :=
  let cs := word.toList
  let name := String.ofList (cs.takeWhile (· != '='))
  match cs.dropWhile (· != '=') with
  | [] => (name, none)
  | _ :: value => (name, some (String.ofList value))

/-- An option. -/
def readOption (ps : List Parameter) (word : String) : Except Complaint OptionWord :=
  let (name, value) := cut word
  match named? ps name with
  | some (p, on) =>
    if p.takesValue then
      .ok (match value with
        | some v => ⟨[(p.name, .text v)], none⟩
        | none => ⟨[], some (p, name)⟩)
    else if value.isSome then .error (.valueUnwanted name)
    else .ok ⟨[(p.name, .switched on)], none⟩
  | none =>
    match word.toList with
    | '-' :: '-' :: _ =>
      .error (.unknownOption name (Text.closest name (ps.flatMap Parameter.longNames)))
    | cs => readLetters ps (cs.drop 1)

/-- Whether a word is an option. -/
def isOption (word : String) : Bool :=
  match word.toList with
  | '-' :: _ :: _ => true
  | _ => false

/-- The scan with more written in front. -/
def Scan.after (written : List (String × Written)) (s : Scan) : Scan :=
  { s with written := written ++ s.written }

/-- Reads words; `mixed` tells whether options can follow other words. -/
def scan (ps : List Parameter) (mixed : Bool) : List String → Except Complaint Scan
  | [] => .ok ⟨[], []⟩
  | word :: rest =>
    if word = "--" then .ok ⟨[], rest⟩
    else if isOption word then
      match readOption ps word with
      | .error c => .error c
      | .ok ⟨written, none⟩ => (scan ps mixed rest).map (Scan.after written)
      | .ok ⟨written, some (p, name)⟩ =>
        match rest with
        | [] => .error (.valueNeeded name)
        | value :: rest =>
          (scan ps mixed rest).map (Scan.after (written ++ [(p.name, .text value)]))
    else if mixed then (scan ps mixed rest).map fun s => { s with others := word :: s.others }
    else .ok ⟨[], word :: rest⟩

/-! ## Settling -/

/-- What was accepted, by the names of the parameters. -/
abbrev Answers := List (String × Accepted)

namespace Answers

/-- The text for a parameter. -/
def text? (a : Answers) (name : String) : Option String :=
  match a.lookup name with
  | some (.text s) => some s
  | _ => none

/-- The number for a parameter. -/
def number? (a : Answers) (name : String) : Option Int :=
  match a.lookup name with
  | some (.number n) => some n
  | _ => none

/-- Whether a switch was turned on or off, if it was. -/
def switch? (a : Answers) (name : String) : Option Bool :=
  match a.lookup name with
  | some (.switched on) => some on
  | _ => none

end Answers

/-- What was last written for a parameter. -/
def Scan.last? (s : Scan) (p : Parameter) : Option Written := s.written.reverse.lookup p.name

/-- The parameters in the order in which they are settled. -/
def Scan.order (s : Scan) (ps : List Parameter) : List Parameter :=
  let given := (s.written.map Prod.fst).eraseDups.filterMap fun n => ps.find? fun p => p.name = n
  given ++ ps.filter fun p => !given.contains p

/-- What is accepted for parameters, in their order. -/
def Scan.settle (files : Files) (s : Scan) : List Parameter → Except Complaint Answers
  | [] => .ok []
  | p :: rest =>
    match s.last? p with
    | none => if p.isRequired then .error (.missing p) else s.settle files rest
    | some w =>
      match p.accept files w with
      | .error m => .error (.misfit p m)
      | .ok a => (s.settle files rest).map ((p.name, a) :: ·)

example : (scan [{ name := "--name", letter := some 'n' }, { name := "--all", form := .switch }]
    true ["-nx", "a", "--all", "--name=y"]).toOption
    = some ⟨[("--name", .text "x"), ("--all", .switched true), ("--name", .text "y")], ["a"]⟩ := by
  decide +kernel

end ClusterOps.CommandLine
