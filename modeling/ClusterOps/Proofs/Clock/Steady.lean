import ClusterOps.Clock
import ClusterOps.Proofs.Number.Nearest

/-
How far clocks can be relied on. A clock is fine up to a limit if it moves no
time up to there by more than an eighth of a second; it is steady if moreover it
keeps signs, leaves the times that it has computed where they are, and takes one
of these from another exactly if the later is at most twice the earlier. The
exact clock is steady up to any limit (`Clock.steady_exact`), the clock with
double precision up to `2 ^ 49` seconds (`Clock.steady_binary64`).
-/

namespace ClusterOps.Clock

/-- No time up to the limit is moved by more than an eighth of a second. -/
def Fine (c : Clock) (limit : Rat) : Prop := ∀ q, |q| ≤ limit → |c.round q - q| ≤ 1 / 8

/-- The clock computes with its own times up to the limit as if it did not round. -/
structure Steady (c : Clock) (limit : Rat) : Prop where
  fine : c.Fine limit
  nonneg : ∀ q, 0 ≤ q → 0 ≤ c.round q
  nonpos : ∀ q, q ≤ 0 → c.round q ≤ 0
  again : ∀ q, |q| ≤ limit → c.round (c.round q) = c.round q
  near : ∀ x y, c.round x = x → c.round y = y → x ≤ y → y ≤ 2 * x → y ≤ limit →
    c.round (y - x) = y - x

theorem fine_exact (limit : Rat) : exact.Fine limit := by
  intro q _
  simp [exact]

theorem steady_exact (limit : Rat) : exact.Steady limit where
  fine := fine_exact limit
  nonneg _ h := h
  nonpos _ h := h
  again _ _ := rfl
  near _ _ _ _ _ _ _ := rfl

theorem fine_binary64 : binary64.Fine (2 ^ 50) := fun _ => Binary64.abs_round_sub_le

theorem steady_binary64 : binary64.Steady (2 ^ 49) where
  fine q h := fine_binary64 q (h.trans (by norm_num))
  nonneg _ := Binary64.round_nonneg
  nonpos _ := Binary64.round_nonpos
  again q h := by
    have hq : |q| ≤ 2 ^ 50 := h.trans (by norm_num)
    obtain ⟨below, above⟩ := abs_le.1 (Binary64.abs_round_sub_le hq)
    obtain ⟨low, high⟩ := abs_le.1 h
    have small : |Binary64.round q| ≤ 2 ^ 50 := abs_le.2 ⟨by linarith, by linarith⟩
    exact Binary64.round_of_isShort small (Binary64.isShort_round hq)
  near x y hx hy le half small := by
    have positive : 0 ≤ x := by linarith
    have short : ∀ {z : Rat}, 0 ≤ z → z ≤ y → binary64.round z = z → Binary64.IsShort z := by
      intro z hz hle same
      rw [← same]
      exact Binary64.isShort_round (abs_le.2 ⟨by linarith, by linarith⟩)
    refine Binary64.round_of_isShort (abs_le.2 ⟨by linarith, by linarith⟩) ?_
    exact (short positive le hx).sub (short (by linarith) le_rfl hy) le half

variable {c : Clock} {limit : Rat}

theorem Fine.later (h : c.Fine limit) (now d : Rat) (hl : -limit ≤ now + d)
    (hu : now + d ≤ limit) :
    now + d - 1 / 8 ≤ c.later now d ∧ c.later now d ≤ now + d + 1 / 8 := by
  obtain ⟨below, above⟩ := abs_le.1 (h _ (abs_le.2 ⟨hl, hu⟩))
  rw [Clock.later]
  constructor <;> linarith

theorem Fine.span (h : c.Fine limit) (start stop : Rat) (hl : -limit ≤ stop - start)
    (hu : stop - start ≤ limit) :
    stop - start - 1 / 8 ≤ c.span start stop ∧ c.span start stop ≤ stop - start + 1 / 8 := by
  obtain ⟨below, above⟩ := abs_le.1 (h _ (abs_le.2 ⟨hl, hu⟩))
  rw [Clock.span]
  constructor <;> linarith

theorem Steady.round_zero (h : c.Steady limit) : c.round 0 = 0 :=
  le_antisymm (h.nonpos 0 le_rfl) (h.nonneg 0 le_rfl)

end ClusterOps.Clock
