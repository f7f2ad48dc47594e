/-
Character properties as lists of code point ranges. A range is a pair of its
first and its last code point; a run maps every `step`-th code point of a range
by adding one number to it.
-/

namespace ClusterOps.Text

/-- Whether a code point lies in one of the ranges. -/
def inRanges (table : List (Nat × Nat)) (c : Nat) : Bool :=
  table.any fun (first, last) => first ≤ c && c ≤ last

/-- Every `step`-th code point from `first` to `last` goes to itself plus `shift`. -/
structure CaseRun where
  first : Nat
  last : Nat
  step : Nat
  shift : Int

/-- The image of a code point under the first run that covers it. -/
def shiftIn (runs : List CaseRun) (c : Nat) : Option Nat :=
  (runs.find? fun r => r.first ≤ c && c ≤ r.last && (c - r.first) % r.step == 0).map
    fun r => ((c : Int) + r.shift).toNat

end ClusterOps.Text
