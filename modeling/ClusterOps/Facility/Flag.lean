import ClusterOps.Facility
import ClusterOps.Text.Case

/-
Flags that choose facilities: one for all of them and one for each. A flag is
either not given, or given for or against.
-/

namespace ClusterOps.Facility

/-- The facilities that a flag names. -/
def flagged (flag : String → Option Bool) (catalog : List String) : List String :=
  catalog.filter fun n => flag n == some true

/-- The names with those added that no flag is against and that are not there yet. -/
def fill (flag : String → Option Bool) (names : List String) : List String → List String
  | [] => names
  | n :: rest =>
    fill flag (if flag n == some false || names.contains n then names else names ++ [n]) rest

/-- The facilities that flags ask for. Naming one switches the default to take all off, unless
taking all was asked for; a flag against a facility excludes it from all. -/
def ofFlags (all : Option Bool) (flag : String → Option Bool) (catalog : List String) :
    List String :=
  if all.getD (flagged flag catalog).isEmpty then fill flag (flagged flag catalog) catalog
  else flagged flag catalog

/-- The characters with an underscore before every capital that is not the first. -/
def underscored (first : Bool) : List Char → List Char
  | [] => []
  | c :: cs =>
    if !first && 'A' ≤ c && c ≤ 'Z' then '_' :: c :: underscored false cs
    else c :: underscored false cs

/-- The name of the parameter behind the flag of a facility: `controller_manager` for
`controllerManager`. -/
def parameterName (facility : String) : String :=
  String.ofList (Text.lowerChars (underscored true facility.toList))

example : ofFlags none (fun n => if n = "audit" then some false else none) supported
    = ["api", "authenticator", "controllerManager", "scheduler"] := by decide

end ClusterOps.Facility
