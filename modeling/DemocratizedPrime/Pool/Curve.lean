import DemocratizedPrime.Pool.Rates

/-!
# The shape of the kink curve

`RateParamsV1.Valid` is what `validate` has checked.  `curve` is the borrower's
rate on atomics, without the overflow checks: one ramp up to the kink and one
above it, each with a truncated slope, the upper one capped.

* `curve_mono`, `minRate_le_curve`, `curve_le_maxRate`: the shape, for valid
  parameters.
* `borrowerRate_eq`: a rate that is computed lies on the curve.
* `kinkCurve_shape`: what the three rate functions do for valid parameters, and
  that nothing but an overflow stops them.
-/

namespace DemocratizedPrime

open Result Rounding

/-- What `validate` has checked of the rates. -/
structure RateParamsV1.Valid (p : RateParamsV1) : Prop where
  min_le_target : p.minRate ≤ p.targetRate
  target_le_max : p.targetRate ≤ p.maxRate
  max_le_one : p.maxRate ≤ Decimal256.one
  kink_pos : 0 < p.kinkUtilization.atomics
  kink_lt_one : p.kinkUtilization < Decimal256.one
  reserveFactor_lt_one : p.reserveFactor < Decimal256.one
  flatFee_le_min : p.feeModel = .flatBorrowSpread → p.flatFeeApr ≤ p.minRate

theorem RateParamsV1.validate_spec {p : RateParamsV1} (h : p.validate = .ok ()) : p.Valid := by
  simp only [RateParamsV1.validate, bind_eq_ok, ensure_eq_ok, exists_const] at h
  obtain ⟨hmin, htarget, hmax, ⟨hkink, hkink1⟩, hfactor, -, u, hfee, -⟩ := h
  refine ⟨hmin, htarget, hmax, ?_, hkink1, hfactor, ?_⟩
  · apply Nat.pos_of_ne_zero
    intro hzero
    simp [Decimal256.isZero, hzero] at hkink
  · intro hflat
    simp only [RateParamsV1.validateFeeModel, hflat, bind_eq_ok, ensure_eq_ok,
      exists_const] at hfee
    exact hfee.1

/-! ## The curve on atomics -/

namespace RateParamsV1

variable {p : RateParamsV1}

/-- The ramp from `minRate` at zero to `targetRate` at the kink. -/
def lowerRamp (p : RateParamsV1) (u : Nat) : Nat :=
  p.minRate.atomics + ramp decimalFractional (p.targetRate.atomics - p.minRate.atomics)
    p.kinkUtilization.atomics u

/-- The ramp from `targetRate` at the kink to `maxRate` at full utilization. -/
def upperRamp (p : RateParamsV1) (u : Nat) : Nat :=
  p.targetRate.atomics + ramp decimalFractional (p.maxRate.atomics - p.targetRate.atomics)
    (decimalFractional - p.kinkUtilization.atomics) (u - p.kinkUtilization.atomics)

/-- The borrower's rate in atomics at a utilization in atomics. -/
def curve (p : RateParamsV1) (u : Nat) : Nat :=
  if u ≤ p.kinkUtilization.atomics then p.lowerRamp u else min (p.upperRamp u) p.maxRate.atomics

theorem minRate_le_curve (hp : p.Valid) (u : Nat) : p.minRate.atomics ≤ p.curve u := by
  have hmin := Decimal256.le_def.mp hp.min_le_target
  have htarget := Decimal256.le_def.mp hp.target_le_max
  unfold curve lowerRamp upperRamp
  split <;> omega

theorem curve_le_targetRate (hp : p.Valid) {u : Nat} (hu : u ≤ p.kinkUtilization.atomics) :
    p.curve u ≤ p.targetRate.atomics := by
  have hmin := Decimal256.le_def.mp hp.min_le_target
  have hramp := ramp_le decimalFractional (p.targetRate.atomics - p.minRate.atomics) hu
  rw [curve, if_pos hu, lowerRamp]
  omega

theorem targetRate_le_curve (hp : p.Valid) {u : Nat} (hu : p.kinkUtilization.atomics < u) :
    p.targetRate.atomics ≤ p.curve u := by
  have htarget := Decimal256.le_def.mp hp.target_le_max
  rw [curve, if_neg (Nat.not_le.mpr hu), upperRamp]
  omega

theorem curve_le_maxRate (hp : p.Valid) (u : Nat) : p.curve u ≤ p.maxRate.atomics := by
  by_cases hu : u ≤ p.kinkUtilization.atomics
  · exact Nat.le_trans (curve_le_targetRate hp hu) hp.target_le_max
  · rw [curve, if_neg hu]
    exact Nat.min_le_right _ _

/-- The curve rises on each side of the kink, and `targetRate` lies between the sides. -/
theorem curve_mono (hp : p.Valid) : Monotone p.curve := by
  intro u v huv
  rcases Nat.lt_or_ge p.kinkUtilization.atomics v with hv | hv
  · rcases Nat.lt_or_ge p.kinkUtilization.atomics u with hu | hu
    · have hramp := ramp_mono decimalFractional (p.maxRate.atomics - p.targetRate.atomics)
        (decimalFractional - p.kinkUtilization.atomics)
        (Nat.sub_le_sub_right huv p.kinkUtilization.atomics)
      rw [curve, curve, if_neg (Nat.not_le.mpr hu), if_neg (Nat.not_le.mpr hv), upperRamp,
        upperRamp]
      omega
    · exact Nat.le_trans (curve_le_targetRate hp hu) (targetRate_le_curve hp hv)
  · have hramp := ramp_mono decimalFractional (p.targetRate.atomics - p.minRate.atomics)
      p.kinkUtilization.atomics huv
    rw [curve, curve, if_pos (Nat.le_trans huv hv), if_pos hv, lowerRamp, lowerRamp]
    omega

end RateParamsV1

/-! ## The rate functions -/

section

variable {p : RateParamsV1} {u r : Decimal256}

theorem rateBelowKink_eq (hp : p.Valid) (h : rateBelowKink p u = .ok r) :
    r.atomics = p.lowerRamp u.atomics := by
  have hkink : p.kinkUtilization.isZero = false := by
    have := hp.kink_pos
    simp only [Decimal256.isZero, beq_eq_false_iff_ne]
    omega
  simp only [rateBelowKink, hkink, Bool.false_eq_true, if_false, bind_eq_ok,
    Decimal256.checkedSub_eq_ok, Decimal256.checkedDiv_eq_ok, Decimal256.checkedMul_eq_ok,
    Decimal256.checkedAdd_eq_ok] at h
  obtain ⟨range, hrange, slope, ⟨-, hslope⟩, growth, hgrowth, hr⟩ := h
  have hrise : range.atomics = p.targetRate.atomics - p.minRate.atomics := by omega
  rw [hr, hgrowth, hslope, hrise, RateParamsV1.lowerRamp, ramp]

/-- Above the kink the whole ramp is computed, and then it is capped. -/
theorem rateAboveKink_ramp (hp : p.Valid) (h : rateAboveKink p u = .ok r) :
    ∃ rate : Decimal256, rate.atomics = p.upperRamp u.atomics ∧ r = rate.min p.maxRate := by
  have hkink := Decimal256.lt_def.mp hp.kink_lt_one
  simp only [rateAboveKink, bind_eq_ok, Decimal256.checkedSub_eq_ok] at h
  obtain ⟨above, habove, h⟩ := h
  have hpos : above.isZero = false := by
    simp only [Decimal256.isZero, beq_eq_false_iff_ne]
    omega
  simp only [hpos, Bool.false_eq_true, if_false, bind_eq_ok, Decimal256.checkedSub_eq_ok,
    Decimal256.checkedDiv_eq_ok, Decimal256.checkedMul_eq_ok, Decimal256.checkedAdd_eq_ok,
    pure_eq_ok] at h
  obtain ⟨excess, hexcess, range, hrange, slope, ⟨-, hslope⟩, growth, hgrowth, rate, hrate, hr⟩ := h
  have hrun : above.atomics = decimalFractional - p.kinkUtilization.atomics := by
    rw [Decimal256.atomics_one] at habove
    omega
  have hrise : range.atomics = p.maxRate.atomics - p.targetRate.atomics := by omega
  have hdistance : excess.atomics = u.atomics - p.kinkUtilization.atomics := by omega
  refine ⟨rate, ?_, hr.symm⟩
  rw [hrate, hgrowth, hslope, hrise, hrun, hdistance, RateParamsV1.upperRamp, ramp]

theorem rateAboveKink_eq (hp : p.Valid) (h : rateAboveKink p u = .ok r) :
    r.atomics = min (p.upperRamp u.atomics) p.maxRate.atomics := by
  obtain ⟨rate, hrate, rfl⟩ := rateAboveKink_ramp hp h
  rw [Decimal256.min_atomics, hrate]

/-- A rate that is computed lies on the curve. -/
theorem borrowerRate_eq (hp : p.Valid) (h : borrowerRateFromUtilization p u = .ok r) :
    r.atomics = p.curve u.atomics := by
  unfold borrowerRateFromUtilization at h
  rw [RateParamsV1.curve]
  split at h
  · rename_i hu
    rw [if_pos (Decimal256.le_def.mp hu)]
    exact rateBelowKink_eq hp h
  · rename_i hu
    have hu' : ¬ u.atomics ≤ p.kinkUtilization.atomics := hu
    rw [if_neg hu']
    exact rateAboveKink_eq hp h

theorem borrowerRate_mono (hp : p.Valid) {v r' : Decimal256} (huv : u ≤ v)
    (h : borrowerRateFromUtilization p u = .ok r)
    (h' : borrowerRateFromUtilization p v = .ok r') : r ≤ r' := by
  rw [Decimal256.le_def, borrowerRate_eq hp h, borrowerRate_eq hp h']
  exact RateParamsV1.curve_mono hp huv

/-- A lender earns more at a higher utilization and a higher borrower's rate. -/
theorem lenderRate_mono {v r' l l' : Decimal256} (huv : u ≤ v) (hr : r ≤ r')
    (h : lenderRateFromUtilization p u r = .ok l)
    (h' : lenderRateFromUtilization p v r' = .ok l') : l ≤ l' := by
  unfold lenderRateFromUtilization at h h'
  rw [Decimal256.le_def] at huv hr ⊢
  cases hmodel : p.feeModel with
  | reserveFactor =>
    simp only [hmodel, bind_eq_ok, Decimal256.checkedSub_eq_ok, Decimal256.checkedMul_eq_ok] at h h'
    obtain ⟨keep, hkeep, mult, hmult, hl⟩ := h
    obtain ⟨keep', hkeep', mult', hmult', hl'⟩ := h'
    have hsame : keep'.atomics = keep.atomics := by omega
    have hle : mult.atomics ≤ mult'.atomics := by
      rw [hmult, hmult', hsame]
      exact Nat.div_le_div_right (Nat.mul_le_mul_right _ huv)
    rw [hl, hl']
    exact Nat.div_le_div_right (Nat.mul_le_mul hr hle)
  | flatBorrowSpread =>
    simp only [hmodel, bind_eq_ok, Decimal256.checkedSub_eq_ok, Decimal256.checkedMul_eq_ok] at h h'
    obtain ⟨spread, hspread, hl⟩ := h
    obtain ⟨spread', hspread', hl'⟩ := h'
    have hle : spread.atomics ≤ spread'.atomics := by omega
    rw [hl, hl']
    exact Nat.div_le_div_right (Nat.mul_le_mul hle huv)

/-! ## The errors of the rate functions -/

/-- The error of a sum or a product that does not fit in 256 bits. -/
def IsOverflow (e : ContractError) : Prop :=
  e = .overflowError .add ∨ e = .overflowError .mul

theorem isOverflow_checkedAdd (a b : Decimal256) : AllErrors IsOverflow (a.checkedAdd b) := by
  simp [Decimal256.checkedAdd, IsOverflow]

theorem isOverflow_checkedMul (a b : Decimal256) : AllErrors IsOverflow (a.checkedMul b) := by
  simp [Decimal256.checkedMul, IsOverflow]

/-- A difference of ordered decimals has no error. -/
theorem allErrors_checkedSub {P : ContractError → Prop} {a b : Decimal256} (h : b ≤ a) :
    AllErrors P (a.checkedSub b) := by
  have hlt := a.isLt
  have hle := Decimal256.le_def.mp h
  have hok : a.checkedSub b = .ok ⟨a.atomics - b.atomics, by omega⟩ := by
    rw [Decimal256.checkedSub_eq_ok]
    exact Nat.sub_add_cancel hle
  rw [hok]
  exact allErrors_ok

/-- Nor has a quotient of a rate. -/
theorem allErrors_checkedDiv {P : ContractError → Prop} {a b : Decimal256}
    (ha : a ≤ Decimal256.one) (hb : b.atomics ≠ 0) : AllErrors P (a.checkedDiv b) := by
  have hle := Decimal256.le_def.mp ha
  have hquot : a.atomics * decimalFractional / b.atomics < 2 ^ 256 := by
    calc a.atomics * decimalFractional / b.atomics ≤ a.atomics * decimalFractional :=
          Nat.div_le_self _ _
      _ ≤ decimalFractional * decimalFractional := Nat.mul_le_mul_right _ hle
      _ < 2 ^ 256 := by decide
  have hok : a.checkedDiv b = .ok ⟨a.atomics * decimalFractional / b.atomics, hquot⟩ := by
    rw [Decimal256.checkedDiv_eq_ok]
    exact ⟨hb, rfl⟩
  rw [hok]
  exact allErrors_ok

/-- The difference of two rates is a rate. -/
theorem checkedSub_le_one {a b c : Decimal256} (ha : a ≤ Decimal256.one)
    (h : a.checkedSub b = .ok c) : c ≤ Decimal256.one := by
  have hsum := Decimal256.checkedSub_eq_ok.mp h
  have hle := Decimal256.le_def.mp ha
  rw [Decimal256.le_def]
  omega

theorem isOverflow_borrowerRate (hp : p.Valid) (u : Decimal256) :
    AllErrors IsOverflow (borrowerRateFromUtilization p u) := by
  have htarget : p.targetRate ≤ Decimal256.one := Nat.le_trans hp.target_le_max hp.max_le_one
  unfold borrowerRateFromUtilization
  rw [allErrors_ite]
  constructor
  · intro _
    simp only [rateBelowKink, allErrors_ite, allErrors_pure, allErrors_bind, implies_true,
      true_and]
    intro _
    refine ⟨allErrors_checkedSub hp.min_le_target, fun range hrange => ?_⟩
    refine ⟨allErrors_checkedDiv (checkedSub_le_one htarget hrange)
      (Nat.ne_of_gt hp.kink_pos), fun slope _ => ?_⟩
    exact ⟨isOverflow_checkedMul _ _, fun growth _ => isOverflow_checkedAdd _ _⟩
  · intro hu
    have hle : p.kinkUtilization ≤ u := Nat.le_of_lt (Nat.not_le.mp hu)
    simp only [rateAboveKink, allErrors_ite, allErrors_pure, allErrors_bind, implies_true,
      true_and]
    refine ⟨allErrors_checkedSub (Nat.le_of_lt hp.kink_lt_one), fun above _ => ?_⟩
    intro habove
    refine ⟨allErrors_checkedSub hle, fun excess _ => ?_⟩
    refine ⟨allErrors_checkedSub hp.target_le_max, fun range hrange => ?_⟩
    refine ⟨allErrors_checkedDiv (checkedSub_le_one hp.max_le_one hrange) ?_, fun slope _ => ?_⟩
    · intro hzero
      exact habove (Decimal256.isZero_iff.mpr hzero)
    · refine ⟨isOverflow_checkedMul _ _, fun growth _ => ?_⟩
      exact ⟨isOverflow_checkedAdd _ _, trivial⟩

/-- The flat fee is at most `minRate`, and the borrower's rate is at least that. -/
theorem isOverflow_lenderRate (hp : p.Valid) (hr : p.minRate ≤ r) :
    AllErrors IsOverflow (lenderRateFromUtilization p u r) := by
  unfold lenderRateFromUtilization
  cases hmodel : p.feeModel with
  | reserveFactor =>
    simp only [allErrors_bind]
    refine ⟨allErrors_checkedSub (Nat.le_of_lt hp.reserveFactor_lt_one), fun keep _ => ?_⟩
    exact ⟨isOverflow_checkedMul _ _, fun mult _ => isOverflow_checkedMul _ _⟩
  | flatBorrowSpread =>
    have hfee : p.flatFeeApr ≤ r := Nat.le_trans (hp.flatFee_le_min hmodel) hr
    simp only [allErrors_bind]
    exact ⟨allErrors_checkedSub hfee, fun spread _ => isOverflow_checkedMul _ _⟩

theorem isOverflow_protocolFeeRate (p : RateParamsV1) (r : Decimal256) :
    AllErrors IsOverflow (protocolFeeRate p r) := by
  unfold protocolFeeRate
  cases p.feeModel with
  | reserveFactor => exact isOverflow_checkedMul _ _
  | flatBorrowSpread => exact allErrors_pure

/-- Without utilization the growth is zero, so nothing overflows. -/
theorem borrowerRate_zero (hp : p.Valid) :
    borrowerRateFromUtilization p Decimal256.zero = .ok p.minRate := by
  have hmin := Decimal256.le_def.mp hp.min_le_target
  have htarget : p.targetRate ≤ Decimal256.one := Nat.le_trans hp.target_le_max hp.max_le_one
  have hkink : p.kinkUtilization.isZero = false := by
    have := hp.kink_pos
    simp only [Decimal256.isZero, beq_eq_false_iff_ne]
    omega
  have hrange : p.targetRate.atomics - p.minRate.atomics ≤ decimalFractional :=
    Nat.le_trans (Nat.sub_le _ _) (Decimal256.le_def.mp htarget)
  have hslope : (p.targetRate.atomics - p.minRate.atomics) * decimalFractional /
      p.kinkUtilization.atomics < 2 ^ 256 := by
    calc (p.targetRate.atomics - p.minRate.atomics) * decimalFractional /
          p.kinkUtilization.atomics
        ≤ (p.targetRate.atomics - p.minRate.atomics) * decimalFractional := Nat.div_le_self _ _
      _ ≤ decimalFractional * decimalFractional := Nat.mul_le_mul_right _ hrange
      _ < 2 ^ 256 := by decide
  have hzero : Decimal256.zero ≤ p.kinkUtilization := Nat.zero_le _
  unfold borrowerRateFromUtilization
  rw [if_pos hzero]
  simp only [rateBelowKink, hkink, Bool.false_eq_true, if_false, bind_eq_ok,
    Decimal256.checkedSub_eq_ok, Decimal256.checkedDiv_eq_ok, Decimal256.checkedMul_eq_ok,
    Decimal256.checkedAdd_eq_ok]
  refine ⟨⟨p.targetRate.atomics - p.minRate.atomics,
    Nat.lt_of_le_of_lt (Nat.sub_le _ _) p.targetRate.isLt⟩, Nat.sub_add_cancel hmin, ⟨_, hslope⟩,
    ⟨Nat.ne_of_gt hp.kink_pos, rfl⟩, Decimal256.zero, ?_, ?_⟩
  · rw [Decimal256.atomics_zero, Nat.mul_zero, Nat.zero_div]
  · rw [Decimal256.atomics_zero, Nat.add_zero]

/-- Nor does the lenders' rate, which is zero. -/
theorem lenderRate_zero (hp : p.Valid) :
    lenderRateFromUtilization p Decimal256.zero p.minRate = .ok Decimal256.zero := by
  have hproduct (a : Decimal256) : a.checkedMul Decimal256.zero = .ok Decimal256.zero := by
    rw [Decimal256.checkedMul_eq_ok, Decimal256.atomics_zero, Nat.mul_zero, Nat.zero_div]
  unfold lenderRateFromUtilization
  cases hmodel : p.feeModel with
  | reserveFactor =>
    simp only [bind_eq_ok, Decimal256.checkedSub_eq_ok, Decimal256.checkedMul_eq_ok]
    refine ⟨⟨Decimal256.one.atomics - p.reserveFactor.atomics,
      Nat.lt_of_le_of_lt (Nat.sub_le _ _) Decimal256.one.isLt⟩,
      Nat.sub_add_cancel (Nat.le_of_lt hp.reserveFactor_lt_one), Decimal256.zero, ?_, ?_⟩
    · rw [Decimal256.atomics_zero, Nat.zero_mul, Nat.zero_div]
    · rw [Decimal256.atomics_zero, Nat.mul_zero, Nat.zero_div]
  | flatBorrowSpread =>
    simp only [bind_eq_ok, Decimal256.checkedSub_eq_ok]
    exact ⟨⟨p.minRate.atomics - p.flatFeeApr.atomics,
      Nat.lt_of_le_of_lt (Nat.sub_le _ _) p.minRate.isLt⟩,
      Nat.sub_add_cancel (hp.flatFee_le_min hmodel), hproduct _⟩

/-- A reserve without borrows has no utilization. -/
theorem utilization_of_noBorrow {r : ReserveStateV1} (hborrow : r.totalScaledBorrow.val = 0)
    (hfits : r.totalScaledLiquidity.val * r.liquidityIndex.atomics < 2 ^ 256) :
    r.utilization = .ok Decimal256.zero := by
  have hliquidity : r.totalLiquidity = .ok ⟨_, hfits⟩ := totalLiquidity_eq_ok.mpr rfl
  unfold ReserveStateV1.utilization
  rw [hliquidity, ok_bind]
  split
  · rfl
  · rename_i hpositive
    have hdebt : r.totalBorrow = .ok Decimal256.zero := by
      rw [totalBorrow_eq_ok, hborrow, Nat.zero_mul, Decimal256.atomics_zero]
    rw [hdebt, ok_bind, Decimal256.checkedDiv_eq_ok, Decimal256.atomics_zero, Nat.zero_mul,
      Nat.zero_div]
    exact ⟨fun hzero => hpositive (Decimal256.isZero_iff.mpr hzero), rfl⟩

/-- Its rates can always be reported. -/
theorem attachRates_of_noBorrow (hp : p.Valid) {r : ReserveStateV1}
    (hborrow : r.totalScaledBorrow.val = 0)
    (hfits : r.totalScaledLiquidity.val * r.liquidityIndex.atomics < 2 ^ 256) (res : Response) :
    ∃ res', res.attachRates r p = .ok res' := by
  unfold Response.attachRates
  rw [utilization_of_noBorrow hborrow hfits, ok_bind, borrowerRate_zero hp, ok_bind,
    lenderRate_zero hp, ok_bind]
  exact ⟨_, rfl⟩

end

/-- The shape of the curve for parameters that `validate` accepts. -/
theorem kinkCurve_shape {p : RateParamsV1} (h : p.validate = .ok ()) :
    (∀ u v r r' : Decimal256, u ≤ v → borrowerRateFromUtilization p u = .ok r →
      borrowerRateFromUtilization p v = .ok r' → r ≤ r') ∧
    (∀ u r : Decimal256, borrowerRateFromUtilization p u = .ok r →
      p.minRate ≤ r ∧ r ≤ p.maxRate ∧ (u ≤ p.kinkUtilization → r ≤ p.targetRate) ∧
        (p.kinkUtilization < u → p.targetRate ≤ r)) ∧
    borrowerRateFromUtilization p Decimal256.zero = .ok p.minRate ∧
    (∀ u v r r' l l' : Decimal256, u ≤ v → borrowerRateFromUtilization p u = .ok r →
      borrowerRateFromUtilization p v = .ok r' → lenderRateFromUtilization p u r = .ok l →
      lenderRateFromUtilization p v r' = .ok l' → l ≤ l') ∧
    ∀ u, AllErrors IsOverflow (borrowerRateFromUtilization p u) ∧
      ∀ r, borrowerRateFromUtilization p u = .ok r →
        AllErrors IsOverflow (lenderRateFromUtilization p u r) ∧
        AllErrors IsOverflow (protocolFeeRate p r) := by
  have hp := RateParamsV1.validate_spec h
  refine ⟨fun u v r r' huv hr hr' => borrowerRate_mono hp huv hr hr', ?_, borrowerRate_zero hp, ?_,
    ?_⟩
  · intro u r hr
    have hcurve := borrowerRate_eq hp hr
    simp only [Decimal256.le_def, Decimal256.lt_def, hcurve]
    exact ⟨RateParamsV1.minRate_le_curve hp _, RateParamsV1.curve_le_maxRate hp _,
      RateParamsV1.curve_le_targetRate hp, RateParamsV1.targetRate_le_curve hp⟩
  · intro u v r r' l l' huv hr hr' hl hl'
    exact lenderRate_mono huv (borrowerRate_mono hp huv hr hr') hl hl'
  · intro u
    refine ⟨isOverflow_borrowerRate hp u, fun r hr => ?_⟩
    have hmin : p.minRate ≤ r := by
      rw [Decimal256.le_def, borrowerRate_eq hp hr]
      exact RateParamsV1.minRate_le_curve hp _
    exact ⟨isOverflow_lenderRate hp hmin, isOverflow_protocolFeeRate p r⟩

/-- 2% at rest, 10% at a kink of 80%, and at most 60%, with a flat fee of 1%. -/
def flatFeeRates : RateParamsV1 :=
  { targetRate := ⟨100000000000000000, by decide⟩
    minRate := ⟨20000000000000000, by decide⟩
    maxRate := ⟨600000000000000000, by decide⟩
    kinkUtilization := ⟨800000000000000000, by decide⟩
    reserveFactor := Decimal256.zero
    feeModel := .flatBorrowSpread
    flatFeeApr := ⟨10000000000000000, by decide⟩
    secondsPerYear := 31536000 }

/-- 7% at half utilization, and the cap above full utilization. -/
theorem kinkCurve_shape_flatFeeRates :
    ∃ r r', borrowerRateFromUtilization flatFeeRates ⟨500000000000000000, by decide⟩ = .ok r ∧
      borrowerRateFromUtilization flatFeeRates ⟨1100000000000000000, by decide⟩ = .ok r' ∧
      r ≤ r' := by
  have hr : borrowerRateFromUtilization flatFeeRates ⟨500000000000000000, by decide⟩ =
      .ok ⟨70000000000000000, by decide⟩ := by decide +kernel
  have hr' : borrowerRateFromUtilization flatFeeRates ⟨1100000000000000000, by decide⟩ =
      .ok ⟨600000000000000000, by decide⟩ := by decide +kernel
  have hshape := kinkCurve_shape (p := flatFeeRates) (by decide)
  exact ⟨_, _, hr, hr', hshape.1 _ _ _ _ (by decide) hr hr'⟩

end DemocratizedPrime
