import ClusterOps.Number.Binary64
import Mathlib.Algebra.Order.Field.Basic
import Mathlib.Algebra.Order.Field.Rat
import Mathlib.Tactic.FieldSimp
import Mathlib.Tactic.Linarith
import Mathlib.Tactic.Positivity
import Mathlib.Tactic.Ring

/-
What rounding to double precision does to numbers up to `2 ^ 50`. There a double
counts in quarters or finer (`Binary64.exists_places`), so the nearest one is an
eighth away at most (`abs_round_sub_le`). A fraction with few enough bits, not too
many of them behind the point, is a double itself (`round_of_isShort`), and so is
the difference of two of them of which the larger is at most twice the smaller
(`IsShort.sub`).
-/

namespace ClusterOps

namespace Rounding

theorem halfEvenNat_cases (n d : Nat) :
    (halfEvenNat n d = n / d ∧ 2 * (n % d) ≤ d) ∨
      (halfEvenNat n d = n / d + 1 ∧ d ≤ 2 * (n % d)) := by
  unfold halfEvenNat
  dsimp only
  split
  · exact .inl ⟨rfl, by omega⟩
  · split
    · exact .inr ⟨rfl, by omega⟩
    · split
      · exact .inl ⟨rfl, by omega⟩
      · exact .inr ⟨rfl, by omega⟩

theorem abs_halfEvenNat_sub_le (n : Nat) {d : Nat} (h : 0 < d) :
    |(halfEvenNat n d : Rat) - n / d| ≤ 1 / 2 := by
  have hd : (0 : Rat) < d := by exact_mod_cast h
  have whole : (d : Rat) * (n / d : Nat) + (n % d : Nat) = n := by
    exact_mod_cast Nat.div_add_mod n d
  have split : (n : Rat) / d = (n / d : Nat) + (n % d : Nat) / d := by
    rw [← whole]
    field_simp
  have positive : (0 : Rat) ≤ (n % d : Nat) / d := by positivity
  have below : ((n % d : Nat) : Rat) / d ≤ 1 := by
    rw [div_le_one hd]
    exact_mod_cast (Nat.mod_lt n h).le
  rw [split]
  rcases halfEvenNat_cases n d with ⟨hr, hle⟩ | ⟨hr, hle⟩
  · have half : ((n % d : Nat) : Rat) / d ≤ 1 / 2 := by
      rw [div_le_iff₀ hd]
      have : (2 : Rat) * (n % d : Nat) ≤ d := by exact_mod_cast hle
      linarith
    rw [hr, abs_le]
    constructor <;> linarith
  · have half : (1 : Rat) / 2 ≤ (n % d : Nat) / d := by
      rw [le_div_iff₀ hd]
      have : (d : Rat) ≤ 2 * (n % d : Nat) := by exact_mod_cast hle
      linarith
    rw [hr, abs_le]
    push_cast
    constructor <;> linarith

theorem halfEvenNat_le {n d k : Nat} (h : 0 < d) (hk : n < k * d) : halfEvenNat n d ≤ k := by
  have below : n / d < k := (Nat.div_lt_iff_lt_mul h).2 hk
  rcases halfEvenNat_cases n d with ⟨hr, -⟩ | ⟨hr, -⟩ <;> omega

end Rounding

namespace Binary64

/-- Up to `2 ^ 50` a quotient is rounded at some place behind the point, the second at least, where
it has 53 bits, or fewer at the last place that there is. -/
theorem exists_places {num den : Nat} (hn : num ≠ 0) (h : num ≤ 2 ^ 50 * den) :
    ∃ p : Nat, scaleOf num den = -p ∧ 2 ≤ p ∧ p ≤ 1074 ∧ num * 2 ^ p < 2 ^ 53 * den ∧
      (p = 1074 ∨ 2 ^ 52 * den ≤ num * 2 ^ p) := by
  have num_ge : 2 ^ num.log2 ≤ num := Nat.log2_self_le hn
  have num_lt : num < 2 ^ (num.log2 + 1) := Nat.lt_log2_self
  have den_ge : 2 ^ den.log2 ≤ den := Nat.log2_self_le (by omega)
  have den_lt : den < 2 ^ (den.log2 + 1) := Nat.lt_log2_self
  have guess : num.log2 < den.log2 + 51 := by
    by_contra hle
    have : 2 ^ 50 * 2 ^ (den.log2 + 1) ≤ 2 ^ num.log2 := by
      rw [← Nat.pow_add]
      exact Nat.pow_le_pow_right (by decide) (by omega)
    omega
  obtain ⟨g, hg⟩ : ∃ g, num.log2 + g = den.log2 + 52 :=
    ⟨den.log2 + 52 - num.log2, by omega⟩
  have negative : (num.log2 : Int) - den.log2 - 52 = -g := by omega
  have power : (-(-(g : Int))).toNat = g := by omega
  -- Fewer places than those that the guess leads to only lose bits.
  have fewer : ∀ {p r : Nat}, p ≤ r → num * 2 ^ r < 2 ^ 53 * den → num * 2 ^ p < 2 ^ 53 * den :=
    fun hle hlt => lt_of_le_of_lt
      (Nat.mul_le_mul_left num (Nat.pow_le_pow_right (by decide) hle)) hlt
  have upper : num * 2 ^ g < 2 ^ 53 * den := by
    calc num * 2 ^ g < 2 ^ (num.log2 + 1) * 2 ^ g :=
          Nat.mul_lt_mul_of_pos_right num_lt (by positivity)
      _ = 2 ^ 53 * 2 ^ den.log2 := by rw [← Nat.pow_add, ← Nat.pow_add]; congr 1; omega
      _ ≤ 2 ^ 53 * den := Nat.mul_le_mul_left _ den_ge
  have lower : 2 ^ 52 * den < num * 2 ^ (g + 1) := by
    calc 2 ^ 52 * den < 2 ^ 52 * 2 ^ (den.log2 + 1) := by omega
      _ = 2 ^ num.log2 * 2 ^ (g + 1) := by rw [← Nat.pow_add, ← Nat.pow_add]; congr 1; omega
      _ ≤ num * 2 ^ (g + 1) := Nat.mul_le_mul_right _ num_ge
  unfold scaleOf
  dsimp only
  rw [negative, if_neg (by omega : ¬ -(g : Int) ≥ 0), power]
  simp only [Nat.pow_eq, decide_eq_true_eq]
  split
  case isTrue below =>
    have doubled : num * 2 ^ (g + 1) < 2 ^ 53 * den := by
      rw [Nat.pow_succ, ← Nat.mul_assoc]
      omega
    by_cases clamped : 1074 < g + 1
    · exact ⟨1074, by omega, by omega, by omega, fewer clamped.le doubled, .inl rfl⟩
    · exact ⟨g + 1, by omega, by omega, by omega, doubled, .inr lower.le⟩
  case isFalse above =>
    by_cases clamped : 1074 < g
    · exact ⟨1074, by omega, by omega, by omega, fewer clamped.le upper, .inl rfl⟩
    · exact ⟨g, by omega, by omega, by omega, upper, .inr (by omega)⟩

theorem ratOfScaled_neg (m e : Int) : ratOfScaled (-m) e = -ratOfScaled m e := by
  unfold ratOfScaled
  split
  · push_cast
    ring
  · rw [Rat.mkRat_eq_div, Rat.mkRat_eq_div, Int.cast_neg, neg_div]

theorem ratOfScaled_places (m : Int) {p : Nat} (h : 0 < p) :
    ratOfScaled m (-p) = m / 2 ^ p := by
  have power : (-(-(p : Int))).toNat = p := by omega
  rw [ratOfScaled, if_neg (by omega), power, Rat.mkRat_eq_div]
  norm_num

/-- The sign decides about the sign and about nothing else. -/
theorem ofQuotient_cases (num den : Nat) :
    (∀ negative, ofQuotient negative num den = .infinite negative) ∨
      ∃ m e, ∀ negative, ofQuotient negative num den = .finite negative m e := by
  unfold ofQuotient
  split
  · exact .inr ⟨_, _, fun _ => rfl⟩
  · dsimp only
    generalize (if _ = Nat.pow 2 53 then _ else _ : Nat × Int) = scaled
    split
    · exact .inl fun _ => rfl
    · exact .inr ⟨_, _, fun _ => rfl⟩

theorem toRat_ofQuotient_true (num den : Nat) :
    (ofQuotient true num den).toRat = -(ofQuotient false num den).toRat := by
  rcases ofQuotient_cases num den with all | ⟨m, e, all⟩
  · rw [all, all]
    rfl
  · rw [all, all]
    exact ratOfScaled_neg m e

theorem toRat_ofQuotient_nonneg (num den : Nat) : 0 ≤ (ofQuotient false num den).toRat := by
  rcases ofQuotient_cases num den with all | ⟨m, e, all⟩
  · rw [all]
    exact le_refl (0 : Rat)
  · rw [all]
    show 0 ≤ ratOfScaled (m : Int) e
    unfold ratOfScaled
    split
    · positivity
    · rw [Rat.mkRat_eq_div]
      positivity

/-- What a quotient is rounded to: the whole number nearest to it at some place. -/
theorem toRat_ofQuotient {num den : Nat} (hn : num ≠ 0) (h : num ≤ 2 ^ 50 * den) :
    ∃ p : Nat, 2 ≤ p ∧ p ≤ 1074 ∧ Rounding.halfEvenNat (num * 2 ^ p) den ≤ 2 ^ 53 ∧
      (p = 1074 ∨ 2 ^ 52 * den ≤ num * 2 ^ p) ∧
      (ofQuotient false num den).toRat = Rounding.halfEvenNat (num * 2 ^ p) den / 2 ^ p := by
  obtain ⟨p, scale, second, last, lt, full⟩ := exists_places hn h
  have bits := Rounding.halfEvenNat_le (by omega) lt
  refine ⟨p, second, last, bits, full, ?_⟩
  have power : (-(-(p : Int))).toNat = p := by omega
  unfold ofQuotient
  simp only [if_neg hn, scale, if_neg (by omega : ¬ -(p : Int) ≥ 0), power, Nat.pow_eq]
  generalize Rounding.halfEvenNat (num * 2 ^ p) den = m at bits ⊢
  split
  case isTrue overflow =>
    -- The significand is halved and the exponent goes up by one.
    obtain ⟨r, rfl⟩ : ∃ r, p = r + 1 := ⟨p - 1, by omega⟩
    have above : -((r + 1 : Nat) : Int) + 1 = -(r : Int) := by omega
    have small : ¬ -(r : Int) > 971 := by omega
    simp only [above, if_neg small]
    show ratOfScaled ((2 ^ 52 : Nat) : Int) (-(r : Int)) = _
    rw [ratOfScaled_places _ (by omega), overflow]
    push_cast
    rw [pow_succ]
    field_simp
    norm_num
  case isFalse =>
    have small : ¬ -(p : Int) > 971 := by omega
    simp only [if_neg small]
    show ratOfScaled (m : Int) (-(p : Int)) = _
    rw [ratOfScaled_places _ (by omega)]
    norm_num

/-! ## Rationals -/

@[simp] theorem round_zero : round 0 = 0 := by decide +kernel

theorem round_of_nonneg {q : Rat} (h : 0 ≤ q) :
    round q = (ofQuotient false q.num.natAbs q.den).toRat := by
  have sign : ¬ q.num < 0 := not_lt.2 (Rat.num_nonneg.2 h)
  simp [round, ofRat, sign]

theorem round_neg (q : Rat) : round (-q) = -round q := by
  have flipped : ∀ {q : Rat}, 0 < q → round (-q) = -round q := by
    intro q h
    have sign : 0 < q.num := Rat.num_pos.2 h
    rw [round_of_nonneg h.le, ← toRat_ofQuotient_true]
    simp [round, ofRat, sign]
  rcases lt_trichotomy q 0 with sign | rfl | sign
  · have := flipped (neg_pos.2 sign)
    rw [neg_neg] at this
    rw [this, neg_neg]
  · simp
  · exact flipped sign

theorem round_nonneg {q : Rat} (h : 0 ≤ q) : 0 ≤ round q := by
  rw [round_of_nonneg h]
  exact toRat_ofQuotient_nonneg _ _

theorem round_nonpos {q : Rat} (h : q ≤ 0) : round q ≤ 0 := by
  have := round_nonneg (neg_nonneg.2 h)
  rw [round_neg] at this
  linarith

theorem natAbs_num_div_den {q : Rat} (h : 0 ≤ q) : (q.num.natAbs : Rat) / q.den = q := by
  rw [Nat.cast_natAbs, abs_of_nonneg (Rat.num_nonneg.2 h), Rat.num_div_den]

theorem natAbs_num_le {q : Rat} (h : 0 ≤ q) (le : q ≤ 2 ^ 50) : q.num.natAbs ≤ 2 ^ 50 * q.den := by
  have hd : (0 : Rat) < q.den := by exact_mod_cast q.den_pos
  rw [← natAbs_num_div_den h, div_le_iff₀ hd] at le
  exact_mod_cast le

theorem abs_round_sub_le {q : Rat} (h : |q| ≤ 2 ^ 50) : |round q - q| ≤ 1 / 8 := by
  have close : ∀ {q : Rat}, 0 < q → q ≤ 2 ^ 50 → |round q - q| ≤ 1 / 8 := by
    intro q sign le
    have hn : q.num.natAbs ≠ 0 := by simpa using sign.ne'
    obtain ⟨p, second, -, -, -, value⟩ := toRat_ofQuotient hn (natAbs_num_le sign.le le)
    have nearest := Rounding.abs_halfEvenNat_sub_le (q.num.natAbs * 2 ^ p) q.den_pos
    have power : (0 : Rat) < 2 ^ p := by positivity
    have quarter : (1 : Rat) / 2 ^ p ≤ 1 / 4 := by
      have : (2 : Rat) ^ 2 ≤ 2 ^ p := pow_le_pow_right₀ (by norm_num) second
      exact one_div_le_one_div_of_le (by norm_num) (by linarith)
    rw [round_of_nonneg sign.le, value]
    generalize Rounding.halfEvenNat (q.num.natAbs * 2 ^ p) q.den = m at nearest
    have scaled : ((q.num.natAbs * 2 ^ p : Nat) : Rat) / q.den = q * 2 ^ p := by
      rw [Nat.cast_mul, mul_div_right_comm, natAbs_num_div_den sign.le]
      norm_num
    rw [scaled] at nearest
    have apart : (m : Rat) / 2 ^ p - q = (m - q * 2 ^ p) * (1 / 2 ^ p) := by field_simp
    rw [apart, abs_mul, abs_of_pos (one_div_pos.2 power)]
    calc |(m : Rat) - q * 2 ^ p| * (1 / 2 ^ p) ≤ 1 / 2 * (1 / 4) :=
          mul_le_mul nearest quarter (one_div_pos.2 power).le (by norm_num)
      _ = 1 / 8 := by norm_num
  obtain ⟨below, above⟩ := abs_le.1 h
  rcases lt_trichotomy q 0 with sign | rfl | sign
  · have := close (neg_pos.2 sign) (by linarith)
    rwa [round_neg, ← neg_sub', abs_neg] at this
  · norm_num
  · exact close sign above

/-! ## Short fractions -/

/-- A fraction with 53 bits at most, and no more of them behind the point than a double can have. -/
def IsShort (q : Rat) : Prop :=
  ∃ (m : Int) (p : Nat), q = m / 2 ^ p ∧ m.natAbs ≤ 2 ^ 53 ∧ p ≤ 1074

theorem IsShort.neg {q : Rat} (h : IsShort q) : IsShort (-q) := by
  obtain ⟨m, p, rfl, bits, last⟩ := h
  exact ⟨-m, p, by push_cast; ring, by simpa using bits, last⟩

theorem isShort_zero : IsShort 0 := ⟨0, 0, by norm_num, by norm_num, by norm_num⟩

theorem isShort_round {q : Rat} (h : |q| ≤ 2 ^ 50) : IsShort (round q) := by
  have short : ∀ {q : Rat}, 0 < q → q ≤ 2 ^ 50 → IsShort (round q) := by
    intro q sign le
    have hn : q.num.natAbs ≠ 0 := by simpa using sign.ne'
    obtain ⟨p, -, last, bits, -, value⟩ := toRat_ofQuotient hn (natAbs_num_le sign.le le)
    refine ⟨(Rounding.halfEvenNat (q.num.natAbs * 2 ^ p) q.den : Nat), p, ?_, bits, last⟩
    rw [round_of_nonneg sign.le, value, Int.cast_natCast]
  obtain ⟨below, above⟩ := abs_le.1 h
  rcases lt_trichotomy q 0 with sign | rfl | sign
  · have := (short (neg_pos.2 sign) (by linarith)).neg
    rwa [round_neg, neg_neg] at this
  · rw [round_zero]
    exact isShort_zero
  · exact short sign above

/-- A fraction with 53 bits at most is whole at the place at which it is rounded. -/
theorem dvd_of_full {num den n r p : Nat} (hd : 0 < den) (same : num * 2 ^ r = n * den)
    (bits : n ≤ 2 ^ 53) (last : r ≤ 1074) (full : p = 1074 ∨ 2 ^ 52 * den ≤ num * 2 ^ p) :
    den ∣ num * 2 ^ p := by
  rcases le_or_gt r p with le | gt
  · obtain ⟨k, rfl⟩ := Nat.exists_eq_add_of_le le
    exact ⟨n * 2 ^ k, by rw [pow_add, ← mul_assoc, same]; ring⟩
  · have full : 2 ^ 52 * den ≤ num * 2 ^ p := full.resolve_left (by omega)
    obtain ⟨k, rfl⟩ := Nat.exists_eq_add_of_lt gt
    have wide : 2 ^ 53 * 2 ^ k ≤ n := by
      refine Nat.le_of_mul_le_mul_right ?_ hd
      calc 2 ^ 53 * 2 ^ k * den = 2 ^ 52 * den * 2 ^ (k + 1) := by ring
        _ ≤ num * 2 ^ p * 2 ^ (k + 1) := Nat.mul_le_mul_right _ full
        _ = n * den := by rw [← same]; ring
    have one : 1 ≤ 2 ^ k := Nat.one_le_two_pow
    have single : k = 0 := by
      by_contra hk
      have : 2 ^ 1 ≤ 2 ^ k := Nat.pow_le_pow_right (by decide) (by omega)
      omega
    subst single
    refine ⟨2 ^ 52, ?_⟩
    have : num * 2 ^ p * 2 = n * den := by rw [← same]; ring
    have : n = 2 ^ 53 := by omega
    subst this
    omega

/-- A short fraction is a double. -/
theorem round_of_isShort {q : Rat} (h : |q| ≤ 2 ^ 50) (short : IsShort q) : round q = q := by
  have kept : ∀ {q : Rat}, 0 < q → q ≤ 2 ^ 50 → IsShort q → round q = q := by
    intro q sign le short
    obtain ⟨m, r, hq, bits, last⟩ := short
    have hn : q.num.natAbs ≠ 0 := by simpa using sign.ne'
    obtain ⟨p, -, -, -, full, value⟩ := toRat_ofQuotient hn (natAbs_num_le sign.le le)
    have same : q.num.natAbs * 2 ^ r = m.natAbs * q.den := by
      have cross : q.num * 2 ^ r = m * q.den := by
        have hd : (q.den : Rat) ≠ 0 := by exact_mod_cast q.den_nz
        have equal : (q.num : Rat) / q.den = m / 2 ^ r := by rw [Rat.num_div_den, ← hq]
        rw [div_eq_div_iff hd (by positivity)] at equal
        exact_mod_cast equal
      simpa [Int.natAbs_mul, Int.natAbs_pow] using congrArg Int.natAbs cross
    obtain ⟨k, whole⟩ := dvd_of_full q.den_pos same bits last full
    rw [round_of_nonneg sign.le, value, whole, Nat.mul_comm, Rounding.halfEvenNat_mul k q.den_pos,
      ← natAbs_num_div_den sign.le, div_eq_div_iff (by positivity) (by exact_mod_cast q.den_nz)]
    exact_mod_cast (Nat.mul_comm k _).trans whole.symm
  obtain ⟨below, above⟩ := abs_le.1 h
  rcases lt_trichotomy q 0 with sign | rfl | sign
  · have := kept (neg_pos.2 sign) (by linarith) short.neg
    rwa [round_neg, neg_inj] at this
  · exact round_zero
  · exact kept sign above short

theorem IsShort.sub {x y : Rat} (hx : IsShort x) (hy : IsShort y) (le : x ≤ y) (half : y ≤ 2 * x) :
    IsShort (y - x) := by
  obtain ⟨a, p, rfl, abits, ap⟩ := hx
  obtain ⟨b, q, rfl, bbits, bp⟩ := hy
  rcases Nat.le_total p q with hpq | hpq
  · obtain ⟨k, rfl⟩ := Nat.exists_eq_add_of_le hpq
    have power : (0 : Rat) < 2 ^ p * 2 ^ k := by positivity
    have scaled : (a : Rat) / 2 ^ p = (a * 2 ^ k : Int) / (2 ^ p * 2 ^ k) := by
      push_cast
      field_simp
    rw [pow_add, scaled] at le half ⊢
    rw [div_le_div_iff_of_pos_right power] at le
    rw [← mul_div_assoc, div_le_div_iff_of_pos_right power] at half
    have le : a * 2 ^ k ≤ b := by exact_mod_cast le
    have half : b ≤ 2 * (a * 2 ^ k) := by exact_mod_cast half
    exact ⟨b - a * 2 ^ k, p + k, by rw [pow_add]; push_cast; ring, by omega, bp⟩
  · obtain ⟨k, rfl⟩ := Nat.exists_eq_add_of_le hpq
    have power : (0 : Rat) < 2 ^ q * 2 ^ k := by positivity
    have scaled : (b : Rat) / 2 ^ q = (b * 2 ^ k : Int) / (2 ^ q * 2 ^ k) := by
      push_cast
      field_simp
    rw [pow_add, scaled] at le half ⊢
    rw [div_le_div_iff_of_pos_right power] at le
    rw [← mul_div_assoc, div_le_div_iff_of_pos_right power] at half
    have le : a ≤ b * 2 ^ k := by exact_mod_cast le
    have half : b * 2 ^ k ≤ 2 * a := by exact_mod_cast half
    exact ⟨b * 2 ^ k - a, q + k, by rw [pow_add]; push_cast; ring, by omega, ap⟩

end Binary64

end ClusterOps
