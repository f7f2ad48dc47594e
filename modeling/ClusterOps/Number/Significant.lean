import ClusterOps.Number.Binary64

/-
Doubles written with a count of significant digits. The scientific form has one
digit before the point and an exponent of at least two digits. The general form
is positional for exponents from -4 up to the count of digits, else scientific,
and drops the zeros at the end of the fraction unless they are asked for.
-/

namespace ClusterOps.Binary64

/-- The first `count` digits of `q ≥ 0`, rounded, and the power of ten of the first of them. -/
def significant (count : Nat) (q : Rat) : List Char × Int :=
  if q = 0 then (List.replicate count '0', 0)
  else
    let p := decimalPlace q
    let n := (Rounding.ofRat (q / ratOfDecimal 1 (p - (count - 1 : Nat)))).natAbs
    if n = Nat.pow 10 count then ((toString (Nat.pow 10 (count - 1))).toList, p + 1)
    else ((toString n).toList, p)

/-- Digits with a point behind the first `whole` of them. -/
def pointed (whole : Nat) (keepPoint : Bool) (ds : List Char) : List Char :=
  let fraction := ds.drop whole
  ds.take whole ++ (if fraction.isEmpty && !keepPoint then [] else '.' :: fraction)

/-- An exponent with its sign and at least two digits. -/
def exponentText (e : Int) : List Char :=
  'e' :: (if e < 0 then '-' else '+') :: (Rounding.padDigits 2 e.natAbs).toList

/-- The scientific form of `q ≥ 0`. -/
def scientificOf (places : Nat) (keepPoint : Bool) (q : Rat) : List Char :=
  let (ds, e) := significant (places + 1) q
  pointed 1 keepPoint ds ++ exponentText e

/-- Digits without the zeros at their end. -/
def withoutZeros (ds : List Char) : List Char := (ds.reverse.dropWhile (· == '0')).reverse

/-- The general form of `q ≥ 0`; `full` keeps the zeros at the end and the point. -/
def generalOf (count : Nat) (full : Bool) (q : Rat) : List Char :=
  let count := max count 1
  let (ds, e) := significant count q
  if e < -4 || (count : Int) ≤ e then
    pointed 1 full (if full then ds else ds.take 1 ++ withoutZeros (ds.drop 1)) ++ exponentText e
  else
    let whole := (max e 0).toNat + 1
    let ds := List.replicate (-e).toNat '0' ++ ds
    pointed whole full (if full then ds else ds.take whole ++ withoutZeros (ds.drop whole))

/-- The absolute value written by a form for the finite ones. -/
def magnitude (form : Rat → List Char) : Binary64 → List Char
  | .finite _ m e => form (ratOfScaled m e)
  | .infinite _ => "inf".toList
  | .nan => "nan".toList

example : (scientificOf 2 false 12345, generalOf 6 false (1 / 8), generalOf 3 true 100)
    = ("1.23e+04".toList, "0.125".toList, "100.".toList) := by decide +kernel

end ClusterOps.Binary64
