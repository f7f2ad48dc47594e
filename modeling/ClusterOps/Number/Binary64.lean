import ClusterOps.Number.Rounding

/-
Double precision numbers as exact values: a sign, a significand and a power of
two. They are read from decimals, compared with rationals, added, multiplied and
printed.

Two printed forms are used. `fixed` writes a given count of decimals of the
exact binary value. `shortest` writes the fewest digits that read back as the
same number: for 1, 2, … 17 digits it tests the two neighbours of the value on
that decimal grid, and the first grid with a point inside the interval of reals
that round to the value wins.
-/

namespace ClusterOps

/-- A double: `± significand · 2 ^ exponent`, an infinity, or not a number. -/
inductive Binary64 where
  | finite (negative : Bool) (significand : Nat) (exponent : Int)
  | infinite (negative : Bool)
  | nan
deriving DecidableEq, Repr, Inhabited

namespace Binary64

/-- The power of two with which `num / den` has 53 significant bits, not below the smallest one. -/
def scaleOf (num den : Nat) : Int :=
  let guess : Int := (Nat.log2 num : Int) - (Nat.log2 den : Int) - 52
  let below : Bool :=
    if guess ≥ 0 then num < Nat.pow 2 52 * den * Nat.pow 2 guess.toNat
    else num * Nat.pow 2 (-guess).toNat < Nat.pow 2 52 * den
  max (if below then guess - 1 else guess) (-1074)

/-- The double nearest to `num / den`; a tie goes to the even significand, and what is too large
becomes an infinity. -/
def ofQuotient (negative : Bool) (num den : Nat) : Binary64 :=
  if num = 0 then .finite negative 0 (-1074)
  else
    let e := scaleOf num den
    let m := if e ≥ 0 then Rounding.halfEvenNat num (den * Nat.pow 2 e.toNat)
             else Rounding.halfEvenNat (num * Nat.pow 2 (-e).toNat) den
    let (m, e) := if m = Nat.pow 2 53 then (Nat.pow 2 52, e + 1) else (m, e)
    if e > 971 then .infinite negative else .finite negative m e

/-- The double nearest to a rational. -/
def ofRat (q : Rat) : Binary64 := ofQuotient (q.num < 0) q.num.natAbs q.den

/-- The double nearest to `± digits · 10 ^ power`. -/
def ofDecimal (negative : Bool) (digits : Nat) (power : Int) : Binary64 :=
  if digits = 0 then .finite negative 0 (-1074)
  else if power > 400 then .infinite negative
  else if power < -(400 + 4 * (Nat.log2 digits : Int)) then .finite negative 0 (-1074)
  else if power ≥ 0 then ofQuotient negative (digits * Nat.pow 10 power.toNat) 1
  else ofQuotient negative digits (Nat.pow 10 (-power).toNat)

/-- `m · 2 ^ e` as a rational. -/
def ratOfScaled (m : Int) (e : Int) : Rat :=
  if e ≥ 0 then ((m * Nat.pow 2 e.toNat : Int) : Rat) else mkRat m (Nat.pow 2 (-e).toNat)

/-- The exact value; the infinities and not-a-number have none. -/
def toRat? : Binary64 → Option Rat
  | .finite neg m e => some (ratOfScaled (if neg then -(m : Int) else m) e)
  | _ => none

/-- The exact value, zero where there is none. -/
def toRat (x : Binary64) : Rat := x.toRat?.getD 0

/-- The rational after one rounding to double precision. -/
def round (q : Rat) : Rat := (ofRat q).toRat

/-- Whether the number is zero of either sign. -/
def isZero : Binary64 → Bool
  | .finite _ m _ => m == 0
  | _ => false

/-- Whether a minus sign is printed in front. -/
def isNegative : Binary64 → Bool
  | .finite neg _ _ => neg
  | .infinite neg => neg
  | .nan => false

/-- The product after one rounding. -/
def times (x y : Binary64) : Binary64 :=
  let negative := x.isNegative != y.isNegative
  match x.toRat?, y.toRat? with
  | some p, some q => ofQuotient negative (p * q).num.natAbs (p * q).den
  | _, _ =>
    if x == .nan || y == .nan || x.isZero || y.isZero then .nan else .infinite negative

/-- The sum after one rounding. Two zeros have a negative sum if both are negative. -/
def plus (x y : Binary64) : Binary64 :=
  match x.toRat?, y.toRat? with
  | some p, some q =>
    if p + q = 0 then .finite (x.isZero && y.isZero && x.isNegative && y.isNegative) 0 (-1074)
    else ofRat (p + q)
  | some _, none => y
  | none, some _ => x
  | none, none => if x == y then x else .nan

/-- A whole number as a double. -/
def ofInt (n : Int) : Binary64 := ofQuotient (n < 0) n.natAbs 1

/-- The double nearest to the number with so many decimals; the sign stays where zero is left. -/
def roundedTo (places : Nat) (x : Binary64) : Binary64 :=
  match x.toRat? with
  | some q => ofQuotient x.isNegative (Rounding.scaled places q).natAbs (Nat.pow 10 places)
  | none => x

/-! ## Printing -/

/-- The number with `places` decimals, rounded from its exact value. -/
def fixed (places : Nat) : Binary64 → String
  | .finite neg m e =>
    (if neg then "-" else "")
      ++ Rounding.fixedNat places (Rounding.scaled places (ratOfScaled m e)).natAbs
  | .infinite neg => if neg then "-inf" else "inf"
  | .nan => "nan"

/-- The place of the first significant digit of `q > 0`: `10 ^ p ≤ q < 10 ^ (p + 1)`. -/
def decimalPlace (q : Rat) : Int :=
  let guess : Int :=
    ((Nat.log2 q.num.natAbs : Int) - (Nat.log2 q.den : Int)) * 30103 / 100000
  let atLeast (p : Int) : Bool :=
    if p ≥ 0 then q.den * Nat.pow 10 p.toNat ≤ q.num.natAbs
    else q.den ≤ q.num.natAbs * Nat.pow 10 (-p).toNat
  if atLeast (guess + 1) then guess + 1
  else if atLeast guess then guess
  else guess - 1

/-- `n · 10 ^ p` as a rational. -/
def ratOfDecimal (n : Nat) (p : Int) : Rat :=
  if p ≥ 0 then ((n * Nat.pow 10 p.toNat : Nat) : Rat) else mkRat n (Nat.pow 10 (-p).toNat)

/-- The point of the grid `10 ^ p` nearest to `v` among those strictly inside, or on a closed end
of, the interval from `low` to `high`. -/
def nearestOnGrid (v low high : Rat) (closed : Bool) (p : Int) : Option Nat :=
  let units := v / ratOfDecimal 1 p
  let down := units.floor.toNat
  let inside (n : Nat) : Bool :=
    let x := ratOfDecimal n p
    if closed then low ≤ x && x ≤ high else low < x && x < high
  match inside down, inside (down + 1) with
  | true, true =>
    let below := units - (down : Rat)
    let above := ((down + 1 : Nat) : Rat) - units
    if below < above then some down
    else if above < below then some (down + 1)
    else if down % 2 = 0 then some down else some (down + 1)
  | true, false => some down
  | false, true => some (down + 1)
  | false, false => none

/-- The first grid with a hit, coarsest first. -/
def firstGrid (v low high : Rat) (closed : Bool) (top : Int) : List Nat → Nat × Int
  | [] => (0, 0)
  | k :: ks =>
    let p := top - k
    match nearestOnGrid v low high closed p with
    | some n => (n, p)
    | none => firstGrid v low high closed top ks

/-- The fewest decimal digits, with their power of ten, that read back as `m · 2 ^ e` (`m > 0`). -/
def shortestDigits (m : Nat) (e : Int) : Nat × Int :=
  let v := ratOfScaled m e
  let half := ratOfScaled 1 (e - 1)
  let low := if m = Nat.pow 2 52 ∧ e > -1074 then v - ratOfScaled 1 (e - 2) else v - half
  firstGrid v low (v + half) (m % 2 = 0) (decimalPlace v) (List.range 20)

/-- Digits and exponent written positionally between `10 ^ -4` and `10 ^ 16`, else with an
exponent of at least two digits. `point` is the count of digits before the decimal point. -/
def layout (digits : List Char) (point : Int) : String :=
  let n : Int := digits.length
  if -4 < point ∧ point ≤ 16 then
    if point ≤ 0 then
      "0." ++ String.ofList (List.replicate (-point).toNat '0' ++ digits)
    else if n ≤ point then
      String.ofList (digits ++ List.replicate (point - n).toNat '0') ++ ".0"
    else
      String.ofList (digits.take point.toNat) ++ "." ++ String.ofList (digits.drop point.toNat)
  else
    let e := point - 1
    let mantissa := match digits with
      | [] => "0"
      | [d] => String.ofList [d]
      | d :: ds => String.ofList (d :: '.' :: ds)
    mantissa ++ "e" ++ (if e < 0 then "-" else "+") ++ Rounding.padDigits 2 e.natAbs

/-- The digits of `n` without zeros at the end, and how many were dropped. -/
def trimZeros (ds : List Char) : List Char × Nat :=
  let kept := (ds.reverse.dropWhile (· == '0')).reverse
  (kept, ds.length - kept.length)

/-- The shortest text that reads back as the number. -/
def shortest : Binary64 → String
  | .finite neg m e =>
    let sign := if neg then "-" else ""
    if m = 0 then sign ++ "0.0"
    else
      let (n, p) := shortestDigits m e
      let (ds, dropped) := trimZeros (toString n).toList
      sign ++ layout ds (p + dropped + ds.length)
  | .infinite neg => if neg then "-inf" else "inf"
  | .nan => "nan"

end Binary64

end ClusterOps
