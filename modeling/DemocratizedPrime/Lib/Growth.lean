import Mathlib.Analysis.Complex.Exponential

/-!
# Growth at a bounded rate

`GrowsWithin c t x t' x'` says that a quantity which is `x` at the time `t` is at the time `t'`
at most what continuous compounding at the rate `c` makes of it.

Simple interest over one period stays within it (`ofSimple`), and periods compose (`trans`).
So a bound on the rate of every period bounds a whole history, however often and at whatever
times it was divided.
-/

namespace Growth

/-- From `x` at `t` to at most `x · exp (c · (t' - t))` at `t'`. -/
def GrowsWithin (c t x t' x' : ℝ) : Prop := x' ≤ x * Real.exp (c * (t' - t))

namespace GrowsWithin

variable {c t t' t'' x x' x'' : ℝ}

theorem refl (c t x : ℝ) : GrowsWithin c t x t x := by
  simp [GrowsWithin]

theorem trans (h : GrowsWithin c t x t' x') (h' : GrowsWithin c t' x' t'' x'') :
    GrowsWithin c t x t'' x'' := by
  unfold GrowsWithin at h h' ⊢
  calc x'' ≤ x' * Real.exp (c * (t'' - t')) := h'
    _ ≤ x * Real.exp (c * (t' - t)) * Real.exp (c * (t'' - t')) :=
        mul_le_mul_of_nonneg_right h (Real.exp_pos _).le
    _ = x * Real.exp (c * (t'' - t)) := by
        rw [mul_assoc, ← Real.exp_add]
        congr 2
        ring

/-- Simple interest is less than what compounding gives. -/
theorem ofSimple (hx : 0 ≤ x) (h : x' ≤ x * (1 + c * (t' - t))) : GrowsWithin c t x t' x' := by
  refine le_trans h (mul_le_mul_of_nonneg_left ?_ hx)
  rw [add_comm]
  exact Real.add_one_le_exp _

/-- What is not more, at the end or in proportion, grows within the same. -/
theorem mul_left {k k' : ℝ} (h : GrowsWithin c t x t' x') (hk : 0 ≤ k') (hle : k' ≤ k)
    (hx : 0 ≤ x) : GrowsWithin c t (k * x) t' (k' * x') := by
  unfold GrowsWithin at h ⊢
  calc k' * x' ≤ k' * (x * Real.exp (c * (t' - t))) := mul_le_mul_of_nonneg_left h hk
    _ ≤ k * (x * Real.exp (c * (t' - t))) :=
        mul_le_mul_of_nonneg_right hle (mul_nonneg hx (Real.exp_pos _).le)
    _ = k * x * Real.exp (c * (t' - t)) := (mul_assoc _ _ _).symm

end GrowsWithin

end Growth
