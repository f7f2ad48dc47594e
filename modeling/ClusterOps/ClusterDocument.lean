import ClusterOps.Cause
import ClusterOps.Yaml.Lexeme

/-
The document that declares a cluster: its identity and the log facilities to
enable. A document is read from data whose keys may be spelled in camel case or
with underscores, the former winning where both stand. Everything that is wrong
with the data is reported at once, each flaw with its place.
-/

namespace ClusterOps

/-- The identity of a cluster. -/
structure Identity where
  name : String
  region : String
  version : Option String
  tags : List (String × String)
deriving DecidableEq, Repr, Inhabited

/-- The declaration of a cluster. `enableTypes` is missing where the document has no section on
logging. -/
structure ClusterDocument where
  apiVersion : String
  kind : String
  identity : Identity
  enableTypes : Option (List String)
deriving DecidableEq, Repr, Inhabited

namespace ClusterDocument

/-- The version of the format. -/
def defaultVersion : String := "controlplane.io/v1alpha1"

/-- The only kind of document. -/
def onlyKind : String := "ClusterConfig"

/-- The longest name of a cluster, in characters. -/
def maxNameLength : Nat := 100

/-! ## Flaws -/

/-- What can be wrong at a place of the data. -/
inductive Flaw where
  | missing
  | notText
  | brokenText
  | notSection (name : String)
  | notMap
  | notList
  | emptyName
  | longName
  | wrongKind (given : String)
deriving DecidableEq, Repr, Inhabited

/-- The complaint about another kind, up to the kind that was given. -/
def kindComplaint : String := "kind must be " ++ onlyKind ++ ", got "

/-- The wording of a flaw. -/
def Flaw.message : Flaw → String
  | .missing => "Field required"
  | .notText => "Input should be a valid string"
  | .brokenText =>
    "Input should be a valid string, unable to parse raw data as a unicode string"
  | .notSection name => "Input should be a valid dictionary or instance of " ++ name
  | .notMap => "Input should be a valid dictionary"
  | .notList => "Input should be a valid list"
  | .emptyName => "String should have at least 1 character"
  | .longName => "String should have at most " ++ toString maxNameLength ++ " characters"
  | .wrongKind given => "Value error, " ++ kindComplaint ++ given

/-- A flaw at a place, which is given by the keys that lead to it. -/
structure Issue where
  place : List String
  flaw : Flaw
deriving DecidableEq, Repr, Inhabited

/-- The place as one text. -/
def Issue.location (i : Issue) : String := ".".intercalate i.place

/-- What was read, or all that is wrong with it. -/
abbrev Checked (α : Type) := Except (List Issue) α

/-- Both results, or the flaws of both. -/
def Checked.and {α β : Type} (a : Checked α) (b : Checked β) : Checked (α × β) :=
  match a, b with
  | .ok x, .ok y => .ok (x, y)
  | .error e, .ok _ => .error e
  | .ok _, .error e => .error e
  | .error e, .error f => .error (e ++ f)

/-- One flaw. -/
def flawed {α : Type} (place : List String) (flaw : Flaw) : Checked α := .error [⟨place, flaw⟩]

/-! ## Reading -/

/-- A text. -/
def textAt (place : List String) : Value → Checked String
  | .text s => .ok s
  | .halves h => .ok h.text
  | .bytes bs =>
    match Yaml.utf8? bs with
    | some s => .ok s
    | none => flawed place .brokenText
  | _ => flawed place .notText

/-- The name of a cluster: a text of one to a hundred characters. -/
def nameAt (place : List String) (v : Value) : Checked String :=
  match v with
  | .halves _ => flawed place .brokenText
  | v =>
    match textAt place v with
    | .error e => .error e
    | .ok s =>
      if s.isEmpty then flawed place .emptyName
      else if maxNameLength < s.length then flawed place .longName
      else .ok s

/-- The first of some keys that a map has, with its value. -/
def field? (entries : List (Value × Value)) : List String → Option (String × Value)
  | [] => none
  | key :: keys =>
    match Value.find? entries key with
    | some v => some (key, v)
    | none => field? entries keys

/-- A field that may be left out. -/
def optional {α : Type} (place : List String) (entries : List (Value × Value))
    (keys : List String) (default : α) (read : List String → Value → Checked α) : Checked α :=
  match field? entries keys with
  | some (key, v) => read (place ++ [key]) v
  | none => .ok default

/-- How a key is named in a place. -/
def keyName : Value → String
  | .text s => s
  | .halves h => h.shown
  | .bool b => if b then "1" else "0"
  | v => v.quoted

/-- One tag: its key and its value are texts. -/
def tagAt (place : List String) (key value : Value) : Checked (String × String) :=
  let place := place ++ [keyName key]
  Checked.and (textAt (place ++ ["[key]"]) key) (textAt place value)

/-- The tags, in their order. -/
def tagsFrom (place : List String) : List (Value × Value) → Checked (List (String × String))
  | [] => .ok []
  | (k, v) :: rest =>
    (Checked.and (tagAt place k v) (tagsFrom place rest)).map fun (t, ts) => t :: ts

/-- The tags of a cluster. -/
def tagsAt (place : List String) : Value → Checked (List (String × String))
  | .map entries => tagsFrom place entries
  | _ => flawed place .notMap

/-- A text or nothing. -/
def versionAt (place : List String) : Value → Checked (Option String)
  | .null => .ok none
  | v => (textAt place v).map some

/-- The identity from its fields. -/
def identityFrom (place : List String) (entries : List (Value × Value)) : Checked Identity :=
  let name := match Value.find? entries "name" with
    | some v => nameAt (place ++ ["name"]) v
    | none => flawed (place ++ ["name"]) .missing
  let region := optional place entries ["region"] "" textAt
  let version := optional place entries ["version"] none versionAt
  let tags := optional place entries ["tags"] [] tagsAt
  (name.and (region.and (version.and tags))).map fun (n, r, v, ts) => ⟨n, r, v, ts⟩

/-- The identity of a cluster. -/
def identityAt (place : List String) : Value → Checked Identity
  | .map entries => identityFrom place entries
  | _ => flawed place (.notSection "ClusterMeta")

/-- The names of facilities, in their order, each with its index as its place. -/
def namesFrom (place : List String) (index : Nat) : List Value → Checked (List String)
  | [] => .ok []
  | v :: vs =>
    (Checked.and (textAt (place ++ [toString index]) v) (namesFrom place (index + 1) vs)).map
      fun (n, ns) => n :: ns

/-- The facilities to enable. -/
def namesAt (place : List String) : Value → Checked (List String)
  | .list vs => namesFrom place 0 vs
  | .set vs => namesFrom place 0 vs
  | _ => flawed place .notList

/-- The section on the facilities. -/
def facilitiesAt (place : List String) : Value → Checked (List String)
  | .map entries => optional place entries ["enableTypes", "enable_types"] [] namesAt
  | _ => flawed place (.notSection "ClusterLogging")

/-- The section on logging, which may be null. -/
def loggingAt (place : List String) : Value → Checked (Option (List String))
  | .null => .ok none
  | .map entries =>
    (optional place entries ["clusterLogging", "cluster_logging"] [] facilitiesAt).map some
  | _ => flawed place (.notSection "ClusterCloudWatch")

/-- The kind of the document, which has no halves. -/
def kindAt (place : List String) (v : Value) : Checked String :=
  match v with
  | .halves h => flawed place (.wrongKind h.text)
  | v =>
    match textAt place v with
    | .error e => .error e
    | .ok s => if s = onlyKind then .ok s else flawed place (.wrongKind s)

/-- The document that the entries of a map denote, or all that is wrong with them. -/
def ofEntries (entries : List (Value × Value)) : Checked ClusterDocument :=
  let version := optional [] entries ["apiVersion", "api_version"] defaultVersion textAt
  let kind := optional [] entries ["kind"] onlyKind kindAt
  let identity := match Value.find? entries "metadata" with
    | some v => identityAt ["metadata"] v
    | none => flawed ["metadata"] .missing
  let logging := optional [] entries ["cloudWatch", "cloud_watch"] none loggingAt
  (version.and (kind.and (identity.and logging))).map fun (a, k, i, l) => ⟨a, k, i, l⟩

/-- Why data is no document: all that is wrong with it, or what was raised while it was read. -/
inductive Invalid where
  | flaws (issues : List Issue)
  | raised (c : Cause)
deriving DecidableEq, Repr, Inhabited

/-- The document that the entries of a map denote. The complaint about another kind holds the kind
as it was given; one that cannot be encoded ends the reading there, whatever else is wrong. -/
def validate (entries : List (Value × Value)) : Except Invalid ClusterDocument :=
  match field? entries ["kind"] with
  | some (_, .halves h) =>
    .error (.raised (.other "UnicodeEncodeError" (h.unencodable kindComplaint.length)))
  | _ => (ofEntries entries).mapError .flaws

/-- The document of a cluster given by name. -/
def new (name region : String) (enableTypes : List String) (version : Option String) :
    Checked ClusterDocument :=
  (nameAt ["name"] (.text name)).map fun n =>
    ⟨defaultVersion, onlyKind, ⟨n, region, version, []⟩, some enableTypes⟩

/-! ## Writing -/

/-- The data of a document, with its keys in camel case. -/
def toValue (d : ClusterDocument) : Value :=
  .object [
    ("apiVersion", .text d.apiVersion),
    ("kind", .text d.kind),
    ("metadata", .object [
      ("name", .text d.identity.name),
      ("region", .text d.identity.region),
      ("version", .ofText? d.identity.version),
      ("tags", .object (d.identity.tags.map fun (k, v) => (k, .text v)))]),
    ("cloudWatch", match d.enableTypes with
      | none => .null
      | some names =>
        .object [("clusterLogging", .object [("enableTypes", .texts names)])])]

/-! ## Changing -/

/-- The declared facilities; none where there is no section on logging. -/
def declared (d : ClusterDocument) : List String := d.enableTypes.getD []

/-- The document with a section on logging, an empty one if it had none. -/
def ensureLogging (d : ClusterDocument) : ClusterDocument :=
  { d with enableTypes := some d.declared }

/-- The document with more facilities declared. -/
def append (d : ClusterDocument) (names : List String) : ClusterDocument :=
  { d with enableTypes := some (d.declared ++ names) }

/-- The document with its declaration expanded; an unknown facility leaves it with nothing but
the section on logging added. -/
def expand (d : ClusterDocument) : Except Facility.Unknown Unit × ClusterDocument :=
  match Facility.expand d.declared Facility.supported with
  | .ok names => (.ok (), { d with enableTypes := some names })
  | .error u => (.error u, d.ensureLogging)

/-! ## Histories -/

/-- A change of a document. -/
inductive Step where
  | ensure
  | expand
  | append (names : List String)
deriving DecidableEq, Repr, Inhabited

/-- One point of a history. `edition` counts how often the declared list was replaced; a list that
is not replaced goes on growing, and whoever looks at it sees it grow. -/
structure Point where
  outcome : Except Facility.Unknown Unit
  document : ClusterDocument
  edition : Nat

/-- The points after each of some steps. -/
def after (d : ClusterDocument) (edition : Nat) : List Step → List Point
  | [] => []
  | .ensure :: rest =>
    let d := d.ensureLogging
    ⟨.ok (), d, edition⟩ :: after d edition rest
  | .append names :: rest =>
    let d := d.append names
    ⟨.ok (), d, edition⟩ :: after d edition rest
  | .expand :: rest =>
    match d.expand with
    | (.ok (), d) => ⟨.ok (), d, edition + 1⟩ :: after d (edition + 1) rest
    | (.error u, d) => ⟨.error u, d, edition⟩ :: after d edition rest

/-- What an edition of the declared list held in the end. -/
def finalNames (points : List Point) (edition : Nat) : List String :=
  points.foldl (fun names m => if m.edition == edition then m.document.declared else names) []

example : (ofEntries [(.text "metadata", .object [("name", .text "")])]).toOption = none := by
  decide +kernel

end ClusterDocument

end ClusterOps
