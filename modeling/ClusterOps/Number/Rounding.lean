/-
Rounding an exact quotient to a whole number. Everything that prints a number
with a fixed count of decimals, and everything that turns a decimal into a
binary fraction, goes through `halfEven`, so the tie rule is stated once: a
half goes to the even neighbour.
-/

namespace ClusterOps.Rounding

/-- The whole number nearest to `num / den`; of two equally near ones the even one. -/
def halfEvenNat (num den : Nat) : Nat :=
  let q := num / den
  let r := num % den
  if 2 * r < den then q
  else if den < 2 * r then q + 1
  else if q % 2 = 0 then q else q + 1

/-- The whole number nearest to `num / den`, symmetric in the sign of `num`. -/
def halfEven (num : Int) (den : Nat) : Int :=
  match num with
  | .ofNat n => Int.ofNat (halfEvenNat n den)
  | .negSucc n => - Int.ofNat (halfEvenNat (n + 1) den)

/-- The whole number nearest to a rational. -/
def ofRat (q : Rat) : Int := halfEven q.num q.den

/-- `q` in units of `10 ^ -places`, rounded. -/
def scaled (places : Nat) (q : Rat) : Int := halfEven (q.num * Nat.pow 10 places) q.den

/-- The digits of `n`, at least `width` of them, zeros in front. -/
def padDigits (width n : Nat) : String :=
  let s := toString n
  String.ofList (List.replicate (width - s.length) '0') ++ s

/-- `units` times `10 ^ -places` written with exactly `places` decimals. -/
def fixedNat (places units : Nat) : String :=
  let whole := toString (units / Nat.pow 10 places)
  if places = 0 then whole else whole ++ "." ++ padDigits places (units % Nat.pow 10 places)

/-- `q` with `places` decimals; a negative number keeps its sign even when it rounds to zero. -/
def fixed (places : Nat) (q : Rat) : String :=
  (if q.num < 0 then "-" else "") ++ fixedNat places (scaled places q).natAbs

/-! ## The tie rule -/

/-- A whole quotient is returned as it is. -/
theorem halfEvenNat_mul (n : Nat) {d : Nat} (h : 0 < d) : halfEvenNat (n * d) d = n := by
  simp [halfEvenNat, Nat.mul_div_cancel _ h, h]

example : (halfEvenNat 1 2, halfEvenNat 3 2, halfEvenNat 5 2) = (0, 2, 2) := by decide

end ClusterOps.Rounding
