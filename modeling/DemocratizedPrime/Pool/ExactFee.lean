import DemocratizedPrime.Pool.AccrualDust
import DemocratizedPrime.Pool.Curve
import Mathlib.Data.Rat.Floor

/-!
# The fee without rounding

The fee of an accrual is meant to be the protocol's part of the interest on the debt:
`debt · rate · years`.  The definitions here are that fee in rational numbers, from the
totals, the indexes, the rate parameters and the elapsed seconds alone.  Nothing is
truncated, and no function of the accrual is called.

* `exactCurve`: the kink curve with its exact slopes.  `exactCurve_mono` and
  `exactCurve_le_add` are its shape: it rises, and no faster than `steepest`.
* `borrowerRate_le_exactRate`, `exactRate_le_borrowerRate`: the rate that an accrual charges
  is at most the exact one, and falls short of it by a few `ulp`.
* `booked_le_exactFee`: no accrual books more than the exact fee.
* `protocolShare_ge`: and the protocol's share of the interest is at least the exact fee, less
  `roundingLoss`.
-/

namespace DemocratizedPrime

open Result Decimal256

/-! ## The curve -/

namespace RateParamsV1

/-- What the rate rises by below the kink, for each unit of utilization. -/
def lowerSlope (p : RateParamsV1) : ℚ :=
  (p.targetRate.toRat - p.minRate.toRat) / p.kinkUtilization.toRat

/-- What it rises by above the kink. -/
def upperSlope (p : RateParamsV1) : ℚ :=
  (p.maxRate.toRat - p.targetRate.toRat) / (1 - p.kinkUtilization.toRat)

/-- The steeper of the two. -/
def steepest (p : RateParamsV1) : ℚ := max p.lowerSlope p.upperSlope

/-- The borrower's rate at the utilization `u`, with nothing truncated. -/
def exactCurve (p : RateParamsV1) (u : ℚ) : ℚ :=
  if u ≤ p.kinkUtilization.toRat then p.minRate.toRat + p.lowerSlope * u
  else min (p.targetRate.toRat + p.upperSlope * (u - p.kinkUtilization.toRat)) p.maxRate.toRat

namespace Valid

variable {p : RateParamsV1}

theorem kink_toRat_pos (hp : p.Valid) : 0 < p.kinkUtilization.toRat := by
  have hpos : (0 : ℚ) < p.kinkUtilization.atomics := by exact_mod_cast hp.kink_pos
  rw [toRat_eq]
  exact mul_pos hpos ulp_pos

theorem room_pos (hp : p.Valid) : 0 < 1 - p.kinkUtilization.toRat := by
  rw [sub_pos, ← toRat_one]
  exact toRat_lt.mpr hp.kink_lt_one

theorem lowerSlope_nonneg (hp : p.Valid) : 0 ≤ p.lowerSlope :=
  div_nonneg (sub_nonneg.mpr (toRat_le.mpr hp.min_le_target)) hp.kink_toRat_pos.le

theorem upperSlope_nonneg (hp : p.Valid) : 0 ≤ p.upperSlope :=
  div_nonneg (sub_nonneg.mpr (toRat_le.mpr hp.target_le_max)) hp.room_pos.le

/-- The lower part of the curve ends in `targetRate`, -/
theorem lowerSlope_mul_kink (hp : p.Valid) :
    p.minRate.toRat + p.lowerSlope * p.kinkUtilization.toRat = p.targetRate.toRat := by
  rw [lowerSlope, div_mul_cancel₀ _ hp.kink_toRat_pos.ne']
  ring

/-- and the upper part reaches `maxRate` at full utilization. -/
theorem upperSlope_mul_room (hp : p.Valid) :
    p.targetRate.toRat + p.upperSlope * (1 - p.kinkUtilization.toRat) = p.maxRate.toRat := by
  rw [upperSlope, div_mul_cancel₀ _ hp.room_pos.ne']
  ring

end Valid

variable {p : RateParamsV1} {x y : ℚ}

theorem exactCurve_le_targetRate (hp : p.Valid) (hx : x ≤ p.kinkUtilization.toRat) :
    p.exactCurve x ≤ p.targetRate.toRat := by
  have hrise := mul_le_mul_of_nonneg_left hx hp.lowerSlope_nonneg
  have hkink := hp.lowerSlope_mul_kink
  rw [exactCurve, if_pos hx]
  linarith

theorem targetRate_le_exactCurve (hp : p.Valid) (hx : p.kinkUtilization.toRat < x) :
    p.targetRate.toRat ≤ p.exactCurve x := by
  have hrise := mul_nonneg hp.upperSlope_nonneg (sub_nonneg.mpr hx.le)
  rw [exactCurve, if_neg (not_le.mpr hx)]
  exact le_min (by linarith) (toRat_le.mpr hp.target_le_max)

theorem exactCurve_le_maxRate (hp : p.Valid) (x : ℚ) : p.exactCurve x ≤ p.maxRate.toRat := by
  by_cases hx : x ≤ p.kinkUtilization.toRat
  · exact le_trans (exactCurve_le_targetRate hp hx) (toRat_le.mpr hp.target_le_max)
  · rw [exactCurve, if_neg hx]
    exact min_le_right _ _

theorem exactCurve_nonneg (hp : p.Valid) (hx : 0 ≤ x) : 0 ≤ p.exactCurve x := by
  by_cases hkink : x ≤ p.kinkUtilization.toRat
  · rw [exactCurve, if_pos hkink]
    exact add_nonneg (toRat_nonneg _) (mul_nonneg hp.lowerSlope_nonneg hx)
  · exact le_trans (toRat_nonneg _) (targetRate_le_exactCurve hp (not_le.mp hkink))

/-- The curve rises on each side of the kink, and `targetRate` lies between the sides. -/
theorem exactCurve_mono (hp : p.Valid) : Monotone p.exactCurve := by
  intro x y hxy
  rcases lt_or_ge p.kinkUtilization.toRat y with hy | hy
  · rcases lt_or_ge p.kinkUtilization.toRat x with hx | hx
    · have hrise := mul_le_mul_of_nonneg_left hxy hp.upperSlope_nonneg
      rw [exactCurve, exactCurve, if_neg (not_le.mpr hx), if_neg (not_le.mpr hy)]
      exact min_le_min_right _ (by linarith)
    · exact le_trans (exactCurve_le_targetRate hp hx) (targetRate_le_exactCurve hp hy)
  · have hrise := mul_le_mul_of_nonneg_left hxy hp.lowerSlope_nonneg
    rw [exactCurve, exactCurve, if_pos (le_trans hxy hy), if_pos hy]
    linarith

/-- And no faster than the steeper of its parts: across the kink, each part covers its side
of the distance. -/
theorem exactCurve_le_add (hp : p.Valid) (hxy : x ≤ y) :
    p.exactCurve y ≤ p.exactCurve x + p.steepest * (y - x) := by
  have hlower : p.lowerSlope ≤ p.steepest := le_max_left _ _
  have hupper : p.upperSlope ≤ p.steepest := le_max_right _ _
  rcases lt_or_ge p.kinkUtilization.toRat y with hy | hy
  · have habove := mul_le_mul_of_nonneg_right hupper (sub_nonneg.mpr hy.le)
    have hexact : p.exactCurve y ≤
        p.targetRate.toRat + p.upperSlope * (y - p.kinkUtilization.toRat) := by
      rw [exactCurve, if_neg (not_le.mpr hy)]
      exact min_le_left _ _
    rcases lt_or_ge p.kinkUtilization.toRat x with hx | hx
    · rw [exactCurve, exactCurve, if_neg (not_le.mpr hx), if_neg (not_le.mpr hy),
        min_add]
      have hrise := mul_le_mul_of_nonneg_right hupper (sub_nonneg.mpr hxy)
      have hcap : 0 ≤ p.steepest * (y - x) :=
        mul_nonneg (le_trans hp.upperSlope_nonneg hupper) (sub_nonneg.mpr hxy)
      apply min_le_min
      · linarith
      · linarith
    · have hbelow := mul_le_mul_of_nonneg_right hlower (sub_nonneg.mpr hx)
      have hkink := hp.lowerSlope_mul_kink
      have hstart : p.exactCurve x = p.minRate.toRat + p.lowerSlope * x := by
        rw [exactCurve, if_pos hx]
      rw [hstart]
      linarith
  · have hrise := mul_le_mul_of_nonneg_right hlower (sub_nonneg.mpr hxy)
    rw [exactCurve, exactCurve, if_pos (le_trans hxy hy), if_pos hy]
    linarith

/-- A ramp of the code in rational numbers stays below the line of its exact slope, -/
theorem ramp_toRat_le (rise x : Nat) {run : Nat} (hrun : 0 < run) :
    (Rounding.ramp decimalFractional rise run x : ℚ) * ulp ≤
      rise * ulp / (run * ulp) * (x * ulp) := by
  have hpos : (0 : ℚ) < run := by exact_mod_cast hrun
  have hramp := Rounding.ramp_mul_le (K := ℚ) decimalFractional rise run x
  rw [mul_div_mul_right _ _ ulp_pos.ne', ← mul_assoc]
  apply mul_le_mul_of_nonneg_right _ ulp_pos.le
  rw [div_mul_eq_mul_div, le_div_iff₀ hpos]
  exact hramp

/-- by at most two `ulp` up to full utilization. -/
theorem le_ramp_toRat (rise : Nat) {run x : Nat} (hrun : 0 < run) (hx : x ≤ decimalFractional) :
    rise * ulp / (run * ulp) * (x * ulp) ≤
      ((Rounding.ramp decimalFractional rise run x : ℚ) + 2) * ulp := by
  have hpos : (0 : ℚ) < run := by exact_mod_cast hrun
  have hramp := Rounding.le_ramp_add_two_mul (K := ℚ) rise (by decide) hrun hx
  rw [mul_div_mul_right _ _ ulp_pos.ne', ← mul_assoc]
  apply mul_le_mul_of_nonneg_right _ ulp_pos.le
  rw [div_mul_eq_mul_div, div_le_iff₀ hpos]
  exact hramp

namespace Valid

theorem lowerSlope_eq (hp : p.Valid) : p.lowerSlope =
    (p.targetRate.atomics - p.minRate.atomics : Nat) * ulp / (p.kinkUtilization.atomics * ulp) := by
  rw [lowerSlope, toRat_eq, toRat_eq, toRat_eq, ← sub_mul,
    Nat.cast_sub (Decimal256.le_def.mp hp.min_le_target)]

theorem upperSlope_eq (hp : p.Valid) : p.upperSlope =
    (p.maxRate.atomics - p.targetRate.atomics : Nat) * ulp /
      ((decimalFractional - p.kinkUtilization.atomics : Nat) * ulp) := by
  have hkink : p.kinkUtilization.atomics ≤ decimalFractional := Nat.le_of_lt hp.kink_lt_one
  rw [upperSlope, ← toRat_one, toRat_eq, toRat_eq, toRat_eq, toRat_eq, atomics_one, ← sub_mul,
    ← sub_mul, Nat.cast_sub (Decimal256.le_def.mp hp.target_le_max), Nat.cast_sub hkink]

end Valid

theorem mul_ulp_le_kink {n : Nat} :
    (n : ℚ) * ulp ≤ p.kinkUtilization.toRat ↔ n ≤ p.kinkUtilization.atomics := by
  rw [toRat_eq, mul_le_mul_iff_left₀ ulp_pos, Nat.cast_le]

/-- The curve of the code, whose slopes and products are truncated, stays below the exact
one, -/
theorem curve_le_exactCurve (hp : p.Valid) (n : Nat) :
    (p.curve n : ℚ) * ulp ≤ p.exactCurve (n * ulp) := by
  by_cases hn : n ≤ p.kinkUtilization.atomics
  · have hramp := ramp_toRat_le (p.targetRate.atomics - p.minRate.atomics) n hp.kink_pos
    rw [exactCurve, if_pos (mul_ulp_le_kink.mpr hn), curve, if_pos hn, lowerRamp, Nat.cast_add,
      add_mul, ← toRat_eq, hp.lowerSlope_eq]
    exact add_le_add_right hramp _
  · have hroom : 0 < decimalFractional - p.kinkUtilization.atomics :=
      Nat.sub_pos_of_lt hp.kink_lt_one
    have hramp := ramp_toRat_le (p.maxRate.atomics - p.targetRate.atomics)
      (n - p.kinkUtilization.atomics) hroom
    rw [exactCurve, if_neg (mt mul_ulp_le_kink.mp hn), curve, if_neg hn, upperRamp, toRat_eq,
      toRat_eq, toRat_eq, Nat.cast_min, min_mul_of_nonneg _ _ ulp_pos.le, ← sub_mul,
      hp.upperSlope_eq, ← Nat.cast_sub (Nat.not_le.mp hn).le, Nat.cast_add, add_mul]
    exact min_le_min_right _ (add_le_add_right hramp _)

/-- by at most two `ulp`.  Beyond full utilization both are capped. -/
theorem exactCurve_le_curve (hp : p.Valid) (n : Nat) :
    p.exactCurve (n * ulp) ≤ ((p.curve n : ℚ) + 2) * ulp := by
  have hwithin {n : Nat} (hn : n ≤ decimalFractional) :
      p.exactCurve (n * ulp) ≤ ((p.curve n : ℚ) + 2) * ulp := by
    by_cases hkink : n ≤ p.kinkUtilization.atomics
    · have hramp := le_ramp_toRat (p.targetRate.atomics - p.minRate.atomics) hp.kink_pos hn
      rw [exactCurve, if_pos (mul_ulp_le_kink.mpr hkink), curve, if_pos hkink, lowerRamp,
        Nat.cast_add, hp.lowerSlope_eq, toRat_eq]
      linarith
    · have hroom : 0 < decimalFractional - p.kinkUtilization.atomics :=
        Nat.sub_pos_of_lt hp.kink_lt_one
      have hramp := le_ramp_toRat (p.maxRate.atomics - p.targetRate.atomics) hroom
        (Nat.le_trans (Nat.sub_le n p.kinkUtilization.atomics) hn)
      have hcap := ulp_pos
      rw [exactCurve, if_neg (mt mul_ulp_le_kink.mp hkink), curve, if_neg hkink, upperRamp,
        toRat_eq, toRat_eq, toRat_eq, Nat.cast_min, ← min_add_add_right,
        min_mul_of_nonneg _ _ hcap.le, ← sub_mul, hp.upperSlope_eq,
        ← Nat.cast_sub (Nat.not_le.mp hkink).le, Nat.cast_add]
      apply min_le_min
      · linarith
      · linarith
  rcases Nat.le_total n decimalFractional with hn | hn
  · exact hwithin hn
  · have hfull : p.exactCurve (decimalFractional * ulp) = p.maxRate.toRat := by
      have hkink : ¬ (1 : ℚ) ≤ p.kinkUtilization.toRat := not_le.mpr (sub_pos.mp hp.room_pos)
      rw [mul_comm, ulp_mul_decimalFractional, exactCurve, if_neg hkink, hp.upperSlope_mul_room,
        min_self]
    calc p.exactCurve (n * ulp) ≤ p.maxRate.toRat := exactCurve_le_maxRate hp _
      _ = p.exactCurve (decimalFractional * ulp) := hfull.symm
      _ ≤ ((p.curve decimalFractional : ℚ) + 2) * ulp := hwithin (Nat.le_refl _)
      _ ≤ ((p.curve n : ℚ) + 2) * ulp := by
        have hmono : (p.curve decimalFractional : ℚ) ≤ p.curve n := by
          exact_mod_cast curve_mono hp hn
        exact mul_le_mul_of_nonneg_right (by linarith) ulp_pos.le

end RateParamsV1

/-! ## The fee -/

/-- The share of the debt in the claims.  Without claims it is zero, as in the code. -/
def ReserveStateV1.exactUtilization (r : ReserveStateV1) : ℚ := r.debt / r.claims

namespace RateParamsV1

/-- The borrower's rate of a reserve. -/
def exactRate (p : RateParamsV1) (r : ReserveStateV1) : ℚ := p.exactCurve r.exactUtilization

/-- The protocol's part of that rate. -/
def exactFeeRate (p : RateParamsV1) (r : ReserveStateV1) : ℚ :=
  match p.feeModel with
  | .reserveFactor => p.reserveFactor.toRat * p.exactRate r
  | .flatBorrowSpread => p.flatFeeApr.toRat

/-- By how many `ulp` the rate of the fee can fall short of that: one step of the utilization
moves the curve by `steepest`, the curve itself drops two, and the product one. -/
def feeRateLoss (p : RateParamsV1) : ℚ :=
  match p.feeModel with
  | .reserveFactor => p.reserveFactor.toRat * (p.steepest + 2) + 1
  | .flatBorrowSpread => 0

end RateParamsV1

/-- The part of a year. -/
def exactYears (elapsed : Nat) : ℚ := elapsed / secondsPerYear

/-- The protocol's part of the interest on the debt of `r` for `elapsed` seconds. -/
def exactFee (r : ReserveStateV1) (p : RateParamsV1) (elapsed : Nat) : ℚ :=
  r.debt * p.exactFeeRate r * exactYears elapsed

/-- What the truncations can take off the protocol's share.  The borrow index alone drops up to
an `ulp` of the debt and of the scaled debt. -/
def feeRoundingLoss (r : ReserveStateV1) (p : RateParamsV1) (elapsed : Nat) : ℚ :=
  (r.debt * (1 + p.exactFeeRate r + p.feeRateLoss * exactYears elapsed) +
    r.totalScaledBorrow.val) * ulp

theorem exactYears_nonneg (elapsed : Nat) : 0 ≤ exactYears elapsed := by
  unfold exactYears
  positivity

section

variable {r : ReserveStateV1} {p : RateParamsV1} {u : Decimal256}

theorem ReserveStateV1.exactUtilization_nonneg (r : ReserveStateV1) : 0 ≤ r.exactUtilization :=
  div_nonneg r.debt_nonneg r.claims_nonneg

theorem RateParamsV1.Valid.exactFeeRate_nonneg (hp : p.Valid) (r : ReserveStateV1) :
    0 ≤ p.exactFeeRate r := by
  unfold RateParamsV1.exactFeeRate
  split
  · exact mul_nonneg (toRat_nonneg _)
      (RateParamsV1.exactCurve_nonneg hp r.exactUtilization_nonneg)
  · exact toRat_nonneg _

theorem RateParamsV1.Valid.steepest_nonneg (hp : p.Valid) : 0 ≤ p.steepest :=
  le_trans hp.lowerSlope_nonneg (le_max_left _ _)

theorem RateParamsV1.Valid.feeRateLoss_nonneg (hp : p.Valid) : 0 ≤ p.feeRateLoss := by
  unfold RateParamsV1.feeRateLoss
  split
  · have hsteep := hp.steepest_nonneg
    have hfactor := toRat_nonneg p.reserveFactor
    positivity
  · exact le_refl 0

/-- The utilization of the code is the exact one, rounded down, -/
theorem utilization_le_exact (h : r.utilization = .ok u) : u.toRat ≤ r.exactUtilization := by
  rw [ReserveStateV1.exactUtilization]
  rcases utilization_spec h with ⟨hclaims, hzero⟩ | ⟨hclaims, hle, -⟩
  · rw [hclaims, div_zero, hzero]
  · rwa [le_div_iff₀ (lt_of_le_of_ne r.claims_nonneg (Ne.symm hclaims))]

/-- by less than one `ulp`. -/
theorem exactUtilization_le (h : r.utilization = .ok u) :
    r.exactUtilization ≤ u.toRat + ulp := by
  rw [ReserveStateV1.exactUtilization]
  rcases utilization_spec h with ⟨hclaims, -⟩ | ⟨hclaims, -, hlt⟩
  · rw [hclaims, div_zero]
    exact add_nonneg (toRat_nonneg u) ulp_pos.le
  · rw [div_le_iff₀ (lt_of_le_of_ne r.claims_nonneg (Ne.symm hclaims))]
    exact hlt.le

end

namespace AccrualTerms.Valid

variable {x : AccrualTerms} {r : ReserveStateV1} {p : RateParamsV1} {elapsed : Nat}

theorem borrowerRate_le_exactRate (h : x.Valid r p elapsed) (hp : p.Valid) :
    x.borrowerRate.toRat ≤ p.exactRate r :=
  calc x.borrowerRate.toRat = (p.curve x.utilization.atomics : ℚ) * ulp := by
        rw [toRat_eq, borrowerRate_eq hp h.borrowerRate]
    _ ≤ p.exactCurve x.utilization.toRat := by
        rw [toRat_eq]
        exact RateParamsV1.curve_le_exactCurve hp _
    _ ≤ p.exactRate r := RateParamsV1.exactCurve_mono hp (utilization_le_exact h.utilization)

theorem exactRate_le_borrowerRate (h : x.Valid r p elapsed) (hp : p.Valid) :
    p.exactRate r ≤ x.borrowerRate.toRat + (p.steepest + 2) * ulp := by
  have hstep := RateParamsV1.exactCurve_le_add hp (utilization_le_exact h.utilization)
  have hcurve := RateParamsV1.exactCurve_le_curve hp x.utilization.atomics
  have hdistance : r.exactUtilization - x.utilization.toRat ≤ ulp := by
    have := exactUtilization_le h.utilization
    linarith
  have hrise := mul_le_mul_of_nonneg_left hdistance hp.steepest_nonneg
  rw [← toRat_eq, ← borrowerRate_eq hp h.borrowerRate, add_mul, ← toRat_eq] at hcurve
  unfold RateParamsV1.exactRate
  linarith

theorem feeRate_le_exact (h : x.Valid r p elapsed) (hp : p.Valid) :
    x.feeRate.toRat ≤ p.exactFeeRate r := by
  have hrate := h.borrowerRate_le_exactRate hp
  have hfee := h.feeRate
  unfold protocolFeeRate at hfee
  unfold RateParamsV1.exactFeeRate
  cases hmodel : p.feeModel with
  | reserveFactor =>
    rw [hmodel] at hfee
    calc x.feeRate.toRat ≤ x.borrowerRate.toRat * p.reserveFactor.toRat := toRat_checkedMul_le hfee
      _ ≤ p.reserveFactor.toRat * p.exactRate r := by
        rw [mul_comm]
        exact mul_le_mul_of_nonneg_left hrate (toRat_nonneg _)
  | flatBorrowSpread =>
    rw [hmodel] at hfee
    rw [← pure_eq_ok.mp hfee]

theorem exactFeeRate_le (h : x.Valid r p elapsed) (hp : p.Valid) :
    p.exactFeeRate r ≤ x.feeRate.toRat + p.feeRateLoss * ulp := by
  have hrate := h.exactRate_le_borrowerRate hp
  have hfee := h.feeRate
  unfold protocolFeeRate at hfee
  unfold RateParamsV1.exactFeeRate RateParamsV1.feeRateLoss
  cases hmodel : p.feeModel with
  | reserveFactor =>
    rw [hmodel] at hfee
    have hproduct := (lt_toRat_checkedMul hfee).le
    have hshare := mul_le_mul_of_nonneg_left hrate (toRat_nonneg p.reserveFactor)
    show p.reserveFactor.toRat * p.exactRate r ≤ _
    linarith
  | flatBorrowSpread =>
    rw [hmodel] at hfee
    rw [← pure_eq_ok.mp hfee, zero_mul, add_zero]

/-- No accrual books more than the whole units of the exact fee. -/
theorem booked_le_exactFee (h : x.Valid r p elapsed) (hp : p.Valid) {fee : Uint128}
    (hfee : fee.val = x.fee.atomics / decimalFractional) :
    (fee.val : ℚ) ≤ ⌊exactFee r p elapsed⌋ := by
  have hyears := toRat_fromRatio_le h.timeFraction
  have hrate := h.feeRate_le_exact hp
  have hfloor : (fee.val : ℚ) ≤ exactFee r p elapsed :=
    calc (fee.val : ℚ) ≤ x.fee.toRat := by
          rw [hfee, toRat, le_div_iff₀ (by positivity)]
          exact Rounding.floorDiv_mul_le _ _
      _ ≤ x.yearly.toRat * x.timeFraction.toRat := toRat_checkedMul_le h.fee
      _ ≤ x.totalBorrow.toRat * x.feeRate.toRat * x.timeFraction.toRat :=
          mul_le_mul_of_nonneg_right (toRat_checkedMul_le h.yearly) (toRat_nonneg _)
      _ ≤ exactFee r p elapsed := by
          rw [ReserveStateV1.debt_eq_toRat h.totalBorrow]
          exact mul_le_mul (mul_le_mul_of_nonneg_left hrate r.debt_nonneg) hyears
            (toRat_nonneg _) (mul_nonneg r.debt_nonneg (le_trans (toRat_nonneg _) hrate))
  have hint : (fee.val : ℤ) ≤ ⌊exactFee r p elapsed⌋ := Int.le_floor.mpr (by exact_mod_cast hfloor)
  exact_mod_cast hint

/-- What an accrual computes as the fee, before the floor, is close to the exact fee. -/
theorem exactFee_le (h : x.Valid r p elapsed) (hp : p.Valid) :
    exactFee r p elapsed ≤ r.debt * x.feeRate.toRat * x.timeFraction.toRat +
      r.debt * (p.exactFeeRate r + p.feeRateLoss * exactYears elapsed) * ulp := by
  have hyears : exactYears elapsed ≤ x.timeFraction.toRat + ulp :=
    (lt_toRat_fromRatio h.timeFraction).le
  have hrate := mul_le_mul_of_nonneg_right (h.exactFeeRate_le hp) (exactYears_nonneg elapsed)
  have hpart := mul_le_mul_of_nonneg_left hyears (toRat_nonneg x.feeRate)
  have hfee := mul_le_mul_of_nonneg_right (h.feeRate_le_exact hp) ulp_pos.le
  have hyearly : p.exactFeeRate r * exactYears elapsed ≤
      x.feeRate.toRat * x.timeFraction.toRat +
        (p.exactFeeRate r + p.feeRateLoss * exactYears elapsed) * ulp := by linarith
  have htotal := mul_le_mul_of_nonneg_left hyearly r.debt_nonneg
  unfold exactFee
  linarith

end AccrualTerms.Valid

/-- The protocol's share of an accrual is at least the exact fee, less the rounding loss. -/
theorem exactFee_le_protocolShare {r r' : ReserveStateV1} {t : Timestamp} {elapsed : Nat}
    {p : RateParamsV1} (h : accrueInterest r t elapsed p = .ok r') (he : elapsed ≠ 0)
    (hp : p.Valid) :
    exactFee r p elapsed - feeRoundingLoss r p elapsed ≤ protocolShare r r' := by
  obtain ⟨x, fee, hx, hfee, -, hshare⟩ := accrueInterest_dust h he
  have hvalid := AccrualTerms.valid hx
  have hbooked := fee_eq hvalid.yearly hvalid.fee hfee
  have hdebt := x.dust_debt_le r
  have hclaims := x.dust_claims_nonneg r
  have hunshared := hvalid.dust_unshared_nonneg
  have hexact := hvalid.exactFee_le hp
  rw [ReserveStateV1.debt_eq_toRat hvalid.totalBorrow] at hbooked
  have hdust : (x.dust r).fee = x.timeFraction.toRat * dropped x.totalBorrow x.feeRate +
      dropped x.yearly x.timeFraction + (x.fee.atomics % decimalFractional : Nat) * ulp := rfl
  unfold feeRoundingLoss
  unfold AccrualDust.left at hshare
  linarith

end DemocratizedPrime
