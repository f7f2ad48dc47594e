import ClusterOps.ClusterDocument
import ClusterOps.Files
import ClusterOps.Log
import ClusterOps.Yaml.Document

/-
Loading a document from a file. What is at a path may be absent, too large, no
text, no YAML, no mapping, or no document; each of these is refused with the path
in the complaint, as long as the step that finds it fails in the way that is
expected of it. What a step raises otherwise comes out as it is. Carriage returns
in front of line feeds, and on their own, are read as line feeds.
-/

namespace ClusterOps.ClusterDocument

/-- The size of the largest file that is read, in bytes. -/
def maxBytes : Nat := 1024 * 1024

/-- The text with every line end written as a line feed; `done` holds what was read, last
character first. -/
def plainLineEnds (done : List Char) : List Char → List Char
  | [] => done.reverse
  | '\r' :: '\n' :: rest => plainLineEnds ('\n' :: done) rest
  | '\r' :: rest => plainLineEnds ('\n' :: done) rest
  | c :: rest => plainLineEnds (c :: done) rest

/-- The complaint about the flaws of a document. -/
def flawsMessage (path : String) (issues : List Issue) : String :=
  "Validation failed for " ++ path ++ ":\n"
    ++ "\n".intercalate (issues.map fun i => "  - " ++ i.location ++ ": " ++ i.flaw.message)

/-! ## Reading -/

/-- How a step on the way to a text fails: the system tells why it refuses, or anything else is
raised. -/
inductive Refusal where
  | told (why : String)
  | other (c : Cause)
deriving DecidableEq, Repr, Inhabited

/-- The failure of a step, in front of whose reason the complaint says what was tried. -/
def Refusal.cause (tried : String) : Refusal → Cause
  | .told why => .document (tried ++ ": " ++ why)
  | .other c => c

/-- What a document is loaded through: whether there is something at a path, its size, its text,
and the data that a text denotes. Each of them may fail as it is expected to, or by raising anything
else; the data of a text then are valueless, of whatever kind was raised. -/
structure Reader where
  isThere : String → Except Cause Bool
  size : String → Except Refusal Nat
  text : String → Except Refusal (List Char)
  data : List Char → Except Yaml.Defect Value

/-- The failure of a text that denotes no data. -/
def defectCause (shown : String) : Yaml.Defect → Cause
  | .malformed => .document ("Invalid YAML in " ++ shown)
  | .valueless kind text => .other kind text

/-- The failure of data that is no document. -/
def Invalid.cause (shown : String) : Invalid → Cause
  | .flaws issues => .document (flawsMessage shown issues)
  | .raised c => c

/-- The document in a text. -/
def ofText (data : List Char → Except Yaml.Defect Value) (shown : String) (text : List Char) :
    Except Cause ClusterDocument :=
  match data text with
  | .error d => .error (defectCause shown d)
  | .ok (.map entries) => (validate entries).mapError (Invalid.cause shown)
  | .ok _ => .error (.document ("Cluster config file must contain a mapping: " ++ shown))

/-- The document at a path. -/
def loadBy (r : Reader) (path : String) : Except Cause ClusterDocument :=
  let shown := Files.plainPath path
  match r.isThere path with
  | .error c => .error c
  | .ok false => .error (.document ("Cluster config file not found: " ++ shown))
  | .ok true =>
    match r.size path with
    | .error e => .error (e.cause ("Failed to stat cluster config file " ++ shown))
    | .ok size =>
      if maxBytes < size then
        .error (.document ("Cluster config file exceeds maximum size of " ++ toString maxBytes
          ++ " bytes: " ++ shown))
      else
        match r.text path with
        | .error e => .error (e.cause ("Failed to read cluster config file " ++ shown))
        | .ok text => ofText r.data shown text

/-! ## Files -/

/-- Why there is no text under a name. -/
def absent (path : String) : Refusal :=
  .told ("[Errno 2] No such file or directory: " ++ Text.quoted (Files.plainPath path))

/-- The reader of a tree of files, which reads a text as YAML. A directory has a size, and none
that is too large. -/
def Reader.ofFiles (files : Files) : Reader where
  isThere path := .ok (files.find? path).isSome
  size path :=
    match files.find? path with
    | some (.file bytes) => .ok bytes.length
    | some .directory => .ok 0
    | none => .error (absent path)
  text path :=
    match files.find? path with
    | some (.file bytes) =>
      match Yaml.utf8From [] bytes with
      | some cs => .ok (plainLineEnds [] cs)
      | none => .error (.other (.other "UnicodeDecodeError" "the file is not UTF-8"))
    | some .directory =>
      .error (.told ("[Errno 21] Is a directory: " ++ Text.quoted (Files.plainPath path)))
    | none => .error (absent path)
  data := Yaml.read

/-- The document in a file. -/
def load (files : Files) (path : String) : Except Cause ClusterDocument :=
  loadBy (.ofFiles files) path

/-- The record that a document was loaded. -/
def loadedRecord (now : Rat) (path : String) (d : ClusterDocument) : Record where
  time := now
  level := .info
  source := .document
  message := "Loaded cluster config '" ++ d.identity.name ++ "' from " ++ Files.plainPath path
  fields := []
  failure := none

end ClusterOps.ClusterDocument
