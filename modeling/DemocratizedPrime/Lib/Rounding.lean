import Mathlib.Algebra.Order.Field.Basic
import Mathlib.Data.Nat.Cast.Order.Ring
import Mathlib.Tactic.Linarith
import Mathlib.Tactic.Ring

/-!
# Rounded quotients

A quotient of natural numbers is rounded down by `/`, and rounded up by
`(a + (d - 1)) / d`.  The lemmas bound both against the exact value, in any
ordered field, and without a division: a quotient times its divisor stands
against the dividend.
-/

namespace Rounding

variable {K : Type} [Field K] [LinearOrder K] [IsStrictOrderedRing K]

theorem floorDiv_mul_le (a d : Nat) : ((a / d : Nat) : K) * d ≤ a := by
  exact_mod_cast Nat.div_mul_le_self a d

theorem lt_floorDiv_add_one_mul (a : Nat) {d : Nat} (hd : 0 < d) :
    (a : K) < (((a / d : Nat) : K) + 1) * d := by
  have hnat : a < (a / d + 1) * d := by
    rw [Nat.add_mul, Nat.one_mul]
    exact Nat.lt_div_mul_add hd
  exact_mod_cast hnat

theorem le_ceilDiv_mul (a : Nat) {d : Nat} (hd : 0 < d) :
    (a : K) ≤ (((a + (d - 1)) / d : Nat) : K) * d := by
  have h := Nat.lt_div_mul_add (a := a + (d - 1)) hd
  have hnat : a ≤ (a + (d - 1)) / d * d := by omega
  exact_mod_cast hnat

theorem ceilDiv_mul_lt (a : Nat) {d : Nat} (hd : 0 < d) :
    (((a + (d - 1)) / d : Nat) : K) * d < a + d := by
  have h := Nat.div_mul_le_self (a + (d - 1)) d
  have hnat : (a + (d - 1)) / d * d < a + d := by omega
  exact_mod_cast hnat

/-- A quotient that is rounded down and then up to a multiple of `d` falls short of the
dividend by less than one divisor. -/
theorem lt_ceilDiv_floorDiv_mul (n : Nat) {i d : Nat} (hi : 0 < i) (hd : 0 < d) :
    n < ((n / i + (d - 1)) / d * d + 1) * i := by
  have hceil : n / i ≤ (n / i + (d - 1)) / d * d := by
    have h := Nat.lt_div_mul_add (a := n / i + (d - 1)) hd
    omega
  calc n < n / i * i + i := Nat.lt_div_mul_add hi
    _ = (n / i + 1) * i := by rw [Nat.add_mul, Nat.one_mul]
    _ ≤ ((n / i + (d - 1)) / d * d + 1) * i := Nat.mul_le_mul_right i (Nat.succ_le_succ hceil)

/-- Parts that are rounded down one by one add up to at most the whole, rounded down. -/
theorem sum_floorDiv_le (i d : Nat) (parts : List Nat) :
    (parts.map fun n => n * i / d).sum ≤ parts.sum * i / d := by
  induction parts with
  | nil => simp
  | cons n rest ih =>
    rw [List.map_cons, List.sum_cons, List.sum_cons, Nat.add_mul]
    calc n * i / d + (rest.map fun n => n * i / d).sum ≤ n * i / d + rest.sum * i / d :=
          Nat.add_le_add_left ih _
      _ ≤ (n * i + rest.sum * i) / d := Nat.div_add_div_le_add_div

/-! ## A truncated quotient, rounded up

A quotient that is known only to a multiple of `1 / d` is `n * d / i`, and
`(n * d / i + (d - 1)) / d` rounds it up.  It never exceeds the exact ceiling, and it is
the exact ceiling unless the fraction of `n / i` was lost in the truncation. -/

theorem ceilDiv_le {a d m : Nat} (hd : 0 < d) (h : a ≤ m * d) : (a + (d - 1)) / d ≤ m := by
  have hlt : a + (d - 1) < (m + 1) * d := by
    rw [Nat.succ_mul]
    omega
  exact Nat.le_of_lt_succ ((Nat.div_lt_iff_lt_mul hd).mpr hlt)

theorem ceilDiv_truncated_le {n i d m : Nat} (hd : 0 < d) (h : n ≤ m * i) :
    (n * d / i + (d - 1)) / d ≤ m := by
  apply ceilDiv_le hd
  apply Nat.div_le_of_le_mul
  calc n * d ≤ m * i * d := Nat.mul_le_mul_right d h
    _ = i * (m * d) := by rw [Nat.mul_comm m i, Nat.mul_assoc]

/-- The whole part and the fraction are truncated apart. -/
theorem ceilDiv_truncated_eq (n : Nat) {i d : Nat} (hi : 0 < i) (hd : 0 < d) :
    (n * d / i + (d - 1)) / d = n / i + (n % i * d / i + (d - 1)) / d := by
  have hsplit : n * d / i = n / i * d + n % i * d / i := by
    have hn : n * d = n % i * d + i * (n / i * d) := by
      calc n * d = (n % i + i * (n / i)) * d := by rw [Nat.mod_add_div]
        _ = n % i * d + i * (n / i * d) := by rw [Nat.add_mul, Nat.mul_assoc]
    rw [hn, Nat.add_mul_div_left _ _ hi, Nat.add_comm]
  rw [hsplit, Nat.add_assoc, Nat.mul_comm (n / i), Nat.mul_add_div hd]

theorem le_ceilDiv_truncated_mul_iff (n : Nat) {i d : Nat} (hi : 0 < i) (hd : 0 < d) :
    n ≤ (n * d / i + (d - 1)) / d * i ↔ n % i = 0 ∨ i ≤ n % i * d := by
  have hdiv := Nat.div_add_mod' n i
  have hrem := Nat.mod_lt n hi
  rw [ceilDiv_truncated_eq n hi hd, Nat.add_mul]
  by_cases hlost : n % i * d < i
  · -- Nothing of the fraction is left, so the quotient is the whole part.
    rw [Nat.div_eq_of_lt hlost, Nat.zero_add, Nat.div_eq_of_lt (Nat.sub_lt hd Nat.one_pos),
      Nat.zero_mul]
    omega
  · have hseen : 1 ≤ (n % i * d / i + (d - 1)) / d := by
      rw [Nat.le_div_iff_mul_le hd]
      have hpos := Nat.div_pos (Nat.not_lt.mp hlost) hi
      omega
    have hone : i ≤ (n % i * d / i + (d - 1)) / d * i := Nat.le_mul_of_pos_left i hseen
    omega

/-! ## A ramp with a truncated slope

The slope `rise / run` is known to a multiple of `1 / d`, and so is its product with a
distance.  Both truncations keep the ramp below the straight line. -/

/-- How far a ramp has risen after `x`. -/
def ramp (d rise run x : Nat) : Nat := rise * d / run * x / d

theorem ramp_mono (d rise run : Nat) : Monotone (ramp d rise run) := by
  intro x y hxy
  exact Nat.div_le_div_right (Nat.mul_le_mul_left _ hxy)

/-- Within its run, a ramp stays within its rise. -/
theorem ramp_le (d rise : Nat) {run x : Nat} (hx : x ≤ run) : ramp d rise run x ≤ rise := by
  unfold ramp
  apply Nat.div_le_of_le_mul
  calc rise * d / run * x ≤ rise * d / run * run := Nat.mul_le_mul_left _ hx
    _ ≤ rise * d := Nat.div_mul_le_self _ _
    _ = d * rise := Nat.mul_comm _ _

/-- A ramp stays below the line of its exact slope, -/
theorem ramp_mul_le (d rise run x : Nat) : (ramp d rise run x : K) * run ≤ rise * x := by
  have hnat : ramp d rise run x * run ≤ rise * x := by
    have hslope := Nat.div_mul_le_self (rise * d) run
    have hramp := Nat.div_mul_le_self (rise * d / run * x) d
    rcases Nat.eq_zero_or_pos d with rfl | hd
    · simp [ramp]
    · apply Nat.le_of_mul_le_mul_right _ hd
      calc ramp d rise run x * run * d = rise * d / run * x / d * d * run := by
            rw [ramp, Nat.mul_right_comm]
        _ ≤ rise * d / run * x * run := Nat.mul_le_mul_right _ hramp
        _ = rise * d / run * run * x := Nat.mul_right_comm _ _ _
        _ ≤ rise * d * x := Nat.mul_le_mul_right _ hslope
        _ = rise * x * d := Nat.mul_right_comm _ _ _
  exact_mod_cast hnat

/-- by at most two steps within a distance of `d`. -/
theorem le_ramp_add_two_mul (rise : Nat) {d run x : Nat} (hd : 0 < d) (hrun : 0 < run)
    (hx : x ≤ d) : (rise : K) * x ≤ ((ramp d rise run x : K) + 2) * run := by
  have hnat : rise * x ≤ (ramp d rise run x + 2) * run := by
    have hslope := Nat.lt_div_mul_add (a := rise * d) hrun
    have hramp := Nat.lt_div_mul_add (a := rise * d / run * x) hd
    apply Nat.le_of_mul_le_mul_right _ hd
    calc rise * x * d = rise * d * x := Nat.mul_right_comm _ _ _
      _ ≤ (rise * d / run * run + run) * x := Nat.mul_le_mul_right _ hslope.le
      _ = (rise * d / run * x + x) * run := by ring
      _ ≤ (rise * d / run * x / d * d + d + d) * run :=
          Nat.mul_le_mul_right _ (Nat.add_le_add hramp.le hx)
      _ = (ramp d rise run x + 2) * run * d := by
          rw [ramp]
          ring
  exact_mod_cast hnat

end Rounding
