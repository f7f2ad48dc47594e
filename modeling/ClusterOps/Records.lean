import ClusterOps.Text.Blank
import ClusterOps.Text.Case
import ClusterOps.Text.Terminal
import ClusterOps.Yaml.Writer

/-
Printing records: as a table, as JSON or as YAML. A table has a column for each
asked for field, as wide as its widest cell, and a tab between columns; blanks at
the end of a line are dropped.
-/

namespace ClusterOps

/-- The forms in which records are printed. -/
inductive OutputForm where
  | table
  | json
  | yaml
deriving DecidableEq, Repr, Inhabited

namespace OutputForm

/-- The word for a form. -/
def name : OutputForm → String
  | .table => "table"
  | .json => "json"
  | .yaml => "yaml"

/-- All forms, in the order in which they are offered. -/
def all : List OutputForm := [.table, .json, .yaml]

/-- The form that a word names. -/
def ofName? (s : String) : Option OutputForm := all.find? fun f => f.name == s

end OutputForm

namespace Records

/-- The text in a cell; what counts as nothing leaves it empty. -/
def cell (record : Value) (column : String) : String :=
  match record.get? column with
  | some v => if v.isTruthy then v.display else ""
  | none => ""

/-- The width of a column. -/
def width (records : List Value) (column : String) : Nat :=
  records.foldl (fun w r => max w (cell r column).length) column.length

/-- A text widened by spaces at its end. -/
def padded (n : Nat) (s : String) : String :=
  s ++ String.ofList (List.replicate (n - s.length) ' ')

/-- A line of a table. -/
def line (cells : List (Nat × String)) : String :=
  let s := "\t".intercalate (cells.map fun (n, s) => padded n s)
  String.ofList (Text.stripRight s.toList)

/-- The lines of a table, the first one holding the names of the columns. -/
def table (records : List Value) (columns : List String) : List String :=
  let widths := columns.map (width records)
  line (widths.zip (columns.map Text.upper))
    :: records.map fun r => line (widths.zip (columns.map (cell r)))

/-- The printed text. -/
def print (records : List Value) (form : OutputForm) (columns : List String) : String :=
  Text.printed (match form with
    | .json => Value.Json.indented (.list records) ++ "\n"
    | .yaml => Yaml.write (.list records)
    | .table =>
      if records.isEmpty then "No clusters found\n"
      else String.join ((table records columns).map (· ++ "\n")))

example : print [.object [("name", .text "a"), ("region", .null)]] .table ["name", "region"]
    = "NAME\tREGION\na\n" := by
  decide +kernel

end Records

end ClusterOps
