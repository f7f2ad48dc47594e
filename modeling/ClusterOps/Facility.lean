/-
The log facilities of a control plane. The catalog of facilities is closed and
ordered. What an operator declares is expanded and checked against the catalog,
and then compared with what is enabled: an update is needed exactly when the two
differ as sets. An update names every facility of the catalog, those to enable
in the order of the declaration and the others in the order of the catalog.
-/

namespace ClusterOps.Facility

/-- The facilities that can be enabled, in their order. -/
def supported : List String := ["api", "audit", "authenticator", "controllerManager", "scheduler"]

/-- The words that stand for the whole catalog. -/
def wildcards : List String := ["all", "*"]

/-- A declared name that the catalog lacks. -/
structure Unknown where
  name : String
deriving DecidableEq, Repr, Inhabited

/-- The wording of the complaint. -/
def Unknown.message (u : Unknown) : String := "log type \"" ++ u.name ++ "\" is unknown"

/-- What the cloud reports of a cluster: the facilities that are on and those that are off. -/
structure Observed where
  enabled : List String
  disabled : List String
deriving DecidableEq, Repr, Inhabited

/-- The comparison of a declaration with what is observed. -/
structure Diff where
  toEnable : List String
  toDisable : List String
  changed : Bool
deriving DecidableEq, Repr, Inhabited

/-- A wildcard anywhere gives the whole catalog; without one the declaration stays as it is. The
first name that the catalog lacks is refused. -/
def expand (declared catalog : List String) : Except Unknown (List String) :=
  let names := if declared.any wildcards.contains then catalog else declared
  match names.find? fun n => !catalog.contains n with
  | some n => .error ⟨n⟩
  | none => .ok names

/-- The facilities of the catalog that are not enabled. -/
def others (enabled catalog : List String) : List String :=
  catalog.filter fun n => !enabled.contains n

/-- The names without repetition, each at its first place. -/
def distinct (names : List String) : List String :=
  names.foldl (fun seen n => if seen.contains n then seen else seen ++ [n]) []

/-- Whether two lists have the same members. -/
def sameMembers (xs ys : List String) : Bool := xs.all ys.contains && ys.all xs.contains

/-- The update that moves what is observed to an expanded declaration. -/
def diff (observed : Observed) (desired catalog : List String) : Diff :=
  let toEnable := distinct desired
  ⟨toEnable, others toEnable catalog, !sameMembers observed.enabled toEnable⟩

/-! ## Wording -/

/-- Whether the verb is in the past. -/
def isPast (verb : String) : Bool := verb.toList.reverse.take 2 == ['d', 'e']

/-- `enable types: a, b`, `no types to enable` or `no types enabled`. -/
def describe (verb : String) (names : List String) : String :=
  if names.isEmpty then
    if isPast verb then "no types " ++ verb else "no types to " ++ verb
  else verb ++ " types: " ++ ", ".intercalate names

/-! ## Small facts -/

/-- The second half of an update holds nothing that is enabled. -/
theorem mem_others {n : String} {enabled catalog : List String} :
    n ∈ others enabled catalog ↔ n ∈ catalog ∧ n ∉ enabled := by
  simp [others]

/-- Having the same members is what the test says. -/
theorem sameMembers_iff {xs ys : List String} :
    sameMembers xs ys = true ↔ ∀ n, n ∈ xs ↔ n ∈ ys := by
  simp only [sameMembers, Bool.and_eq_true, List.all_eq_true, List.contains_iff_mem]
  exact ⟨fun ⟨h, k⟩ n => ⟨h n, k n⟩, fun h => ⟨fun n => (h n).1, fun n => (h n).2⟩⟩

/-- Dropping repetitions loses no name. -/
theorem mem_distinct {n : String} {names : List String} : n ∈ distinct names ↔ n ∈ names := by
  have fold (seen : List String) :
      n ∈ names.foldl (fun seen n => if seen.contains n then seen else seen ++ [n]) seen
        ↔ n ∈ seen ∨ n ∈ names := by
    induction names generalizing seen with
    | nil => simp
    | cons m names ih =>
      rw [List.foldl_cons, ih]
      split <;> grind
  simpa [distinct] using fold []

/-- An update is needed exactly if the enabled facilities are not the desired ones. -/
theorem changed_diff_iff {observed : Observed} {desired catalog : List String} :
    (diff observed desired catalog).changed = true ↔ ¬ ∀ n, n ∈ observed.enabled ↔ n ∈ desired := by
  simp only [diff, Bool.not_eq_true', ← Bool.not_eq_true, sameMembers_iff, mem_distinct]

example : (expand ["audit", "all"] supported).toOption = some supported := by decide

end ClusterOps.Facility
