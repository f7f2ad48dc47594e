import ClusterOps.Text.Digit

/-
Letters and digits of ASCII by their code points. Of the digits of every script, those
among the first 128 code points are the digits of ASCII.
-/

namespace ClusterOps.Text

variable {c d : Char}

theorem toNat_of_isDigit (h : c.isDigit = true) : 48 ≤ c.toNat ∧ c.toNat ≤ 57 := by
  simpa [Char.isDigit, UInt32.le_iff_toNat_le] using h

theorem isDigit_of_toNat (low : 48 ≤ c.toNat) (high : c.toNat ≤ 57) : c.isDigit = true := by
  simpa [Char.isDigit, UInt32.le_iff_toNat_le] using And.intro low high

theorem isAlphanum_of_isDigit (h : c.isDigit = true) : c.isAlphanum = true := by
  simp [Char.isAlphanum, h]

theorem toNat_of_isAlphanum (h : c.isAlphanum = true) : 48 ≤ c.toNat ∧ c.toNat ≤ 122 := by
  have ranges : (decide (65 ≤ c.val ∧ c.val ≤ 90) || (97 ≤ c.val && c.val ≤ 122) ||
      (48 ≤ c.val && c.val ≤ 57)) = true := h
  simp only [Bool.or_eq_true, Bool.and_eq_true, decide_eq_true_eq,
    UInt32.le_iff_toNat_le] at ranges
  simp at ranges
  omega

theorem ne_of_isAlphanum (h : c.isAlphanum = true) (hd : d.isAlphanum = false) : c ≠ d := by
  rintro rfl
  simp [h] at hd

theorem isDecimalDigit_of_isDigit (h : c.isDigit = true) : isDecimalDigit c = true := by
  simp [isDecimalDigit, digitValue?, zeroDigits, toNat_of_isDigit h]

theorem isDigit_of_isDecimalDigit (h : isDecimalDigit c = true) (ascii : c.toNat < 128) :
    c.isDigit = true := by
  rw [isDecimalDigit, digitValue?, Option.isSome_map, List.find?_isSome] at h
  obtain ⟨z, hz, block⟩ := h
  obtain ⟨low, high⟩ : z ≤ c.toNat ∧ c.toNat ≤ z + 9 := by simpa using block
  -- The first block is that of ASCII; all others begin beyond the 128 code points.
  have first : z = 48 := by
    have beyond : ∀ z ∈ zeroDigits, z = 48 ∨ 128 ≤ z := by decide
    have := beyond z hz
    omega
  subst first
  exact isDigit_of_toNat low high

end ClusterOps.Text
