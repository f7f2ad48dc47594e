import Mathlib.Algebra.Group.Nat.Defs
import Mathlib.Data.List.Basic
import ClusterOps.Proofs.Text.Ascii
import ClusterOps.Text.IntLiteral

/-
What is printed reads back: the decimal text of a number without a sign denotes
that number, as long as it does not have more digits than are read.
-/

namespace ClusterOps.Text

/-- The value of a digit of ASCII. -/
theorem digitValue?_of_isDigit {c : Char} (h : c.isDigit) :
    digitValue? c = some (c.toNat - 48) := by
  have bounds : 48 ≤ c.toNat ∧ c.toNat ≤ 57 := toNat_of_isDigit h
  simp [digitValue?, zeroDigits, bounds]

theorem isMargin_of_printable {c : Char} (low : 33 ≤ c.toNat) (high : c.toNat ≤ 126) :
    isMargin c = false := by
  have : isBlank c = false := by
    simp only [isBlank, blanks, List.contains_eq_mem, decide_eq_false_iff_not, List.mem_cons,
      List.not_mem_nil, or_false]
    omega
  simp [isMargin, this]

/-- A text without margins stays as it is. -/
theorem withoutMargin_eq_self {cs : List Char} (h : ∀ c ∈ cs, isMargin c = false) :
    withoutMargin cs = cs := by
  have drop : ∀ {cs : List Char}, (∀ c ∈ cs, isMargin c = false) → cs.dropWhile isMargin = cs := by
    intro cs h
    cases cs with
    | nil => rfl
    | cons c cs => exact List.dropWhile_cons_of_neg (by simp [h c (by simp)])
  rw [withoutMargin, drop h, drop (by simpa using h), List.reverse_reverse]

/-- Digits of ASCII are read one by one. -/
theorem digitValues?_of_isDigit {cs : List Char} (ne : cs ≠ []) (h : ∀ c ∈ cs, c.isDigit) :
    digitValues? cs = some (cs.map fun c => c.toNat - 48) := by
  fun_induction digitValues? cs with
  | case1 => exact absurd rfl ne
  | case2 c => simp [digitValue?_of_isDigit (h c (by simp))]
  | case3 c rest => exact absurd (h '_' (by simp)) (by decide)
  | case4 c rest more _ ih =>
    obtain ⟨d, ds, rfl⟩ := List.exists_cons_of_ne_nil more
    rw [ih (by simp) fun d hd => h d (by simp_all), digitValue?_of_isDigit (h c (by simp))]
    rfl

/-- The two ways to put digits together agree. -/
theorem ofDigits_map (cs : List Char) :
    ofDigits (cs.map fun c => c.toNat - 48) = Nat.ofDigitChars 10 cs 0 := by
  rw [ofDigits, List.foldl_map]
  rfl

/-- A number of at most so many digits reads back. -/
theorem natLiteral?_toDigits {n : Nat} (h : n < 10 ^ maxDigits) :
    natLiteral? (Nat.toDigits 10 n) = some n := by
  have short : (Nat.toDigits 10 n).length ≤ maxDigits :=
    (Nat.length_toDigits_le_iff (by decide) (by decide)).2 h
  rw [natLiteral?, digitValues?_of_isDigit Nat.toDigits_ne_nil fun c =>
    Nat.isDigit_of_mem_toDigits (by decide) (by decide)]
  simp only [Option.bind_eq_bind, Option.bind_some, List.length_map, short, if_true, ofDigits_map]
  rw [Nat.ofDigitChars_toDigits (by decide) (by decide)]

/-- Numbers are told apart by their texts. -/
theorem toString_injective {m n : Nat} (h : toString m = toString n) : m = n := by
  have digits : Nat.toDigits 10 m = Nat.toDigits 10 n := by
    simpa using congrArg String.toList h
  have read := congrArg (Nat.ofDigitChars 10 · 0) digits
  simpa [Nat.ofDigitChars_toDigits] using read

theorem intLiteral?_toString {n : Nat} (h : n < 10 ^ maxDigits) :
    intLiteral? (toString n) = some (n : Int) := by
  have digits : ∀ c ∈ Nat.toDigits 10 n, c.isDigit := fun c =>
    Nat.isDigit_of_mem_toDigits (by decide) (by decide)
  have bare : withoutMargin (toString n).toList = Nat.toDigits 10 n := by
    rw [Nat.toString_eq_ofList_toDigits, String.toList_ofList]
    refine withoutMargin_eq_self fun c hc => ?_
    have bounds : 48 ≤ c.toNat ∧ c.toNat ≤ 57 := toNat_of_isDigit (digits c hc)
    exact isMargin_of_printable (by omega) (by omega)
  rw [intLiteral?, bare]
  split
  case h_1 sign => exact absurd (digits '-' (by simp [sign])) (by decide)
  case h_2 sign => exact absurd (digits '+' (by simp [sign])) (by decide)
  case h_3 => simp [natLiteral?_toDigits h]

end ClusterOps.Text
