import DemocratizedPrime.Pool.Accrual

/-!
# What an accrual rounds away

Without rounding, the interest of the borrowers would be shared out to the last digit.
`AccrualDust` has what the roundings of one accrual drop, each part as a sum of remainders:
off the debt, off the claims, off the fee, and what the truncated rates give to nobody.

* `accrueInterest_dust`: the growth of the debt less the growth of the claims is the fee and
  the dust that is left (`AccrualDust.left`), exactly.
* `AccrualTerms.dust_debt_le` and the lemmas around it: how large each part can be.
* `AccruedTo.surplus`: rounding costs the difference between the debt and the claims at
  most `10 ^ -18` of the debt before the accrual, and of the scaled debt.
-/

namespace DemocratizedPrime

open Result Decimal256

/-- What the roundings of an accrual drop, in base units. -/
structure AccrualDust where
  /-- off the debt, by the truncation of the borrow index -/
  debt : ℚ
  /-- off the claims, by the truncation of the liquidity index -/
  claims : ℚ
  /-- off the fee, most of it by the floor -/
  fee : ℚ
  /-- off both shares, by the truncation of the utilization and of the rates -/
  unshared : ℚ

/-- What an index loses when it grows. -/
def growthDust (index rate timeFraction factor : Decimal256) : ℚ :=
  index.toRat * dropped rate timeFraction + dropped index factor

/-- What an accrual computes on its way. -/
structure AccrualTerms where
  totalBorrow : Decimal256
  utilization : Decimal256
  borrowerRate : Decimal256
  lenderRate : Decimal256
  liFactor : Decimal256
  biFactor : Decimal256
  timeFraction : Decimal256
  feeRate : Decimal256
  yearly : Decimal256
  fee : Decimal256

/-- The terms of an accrual, in the order in which it computes them. -/
def accrualTerms (reserve : ReserveStateV1) (params : RateParamsV1) (elapsed : Nat) :
    ContractResult AccrualTerms := do
  let totalBorrow ← reserve.totalBorrow
  let utilization ← reserve.utilization
  let borrowerRate ← borrowerRateFromUtilization params utilization
  let lenderRate ← lenderRateFromUtilization params utilization borrowerRate
  let liFactor ← indexGrowthFactor lenderRate elapsed secondsPerYear
  let biFactor ← indexGrowthFactor borrowerRate elapsed secondsPerYear
  let timeFraction ← Decimal256.fromRatio elapsed secondsPerYear
  let feeRate ← protocolFeeRate params borrowerRate
  let yearly ← totalBorrow.checkedMul feeRate
  let fee ← yearly.checkedMul timeFraction
  return { totalBorrow, utilization, borrowerRate, lenderRate, liFactor, biFactor, timeFraction,
           feeRate, yearly, fee }

/-- The remainders of an accrual. -/
def AccrualTerms.dust (x : AccrualTerms) (r : ReserveStateV1) : AccrualDust where
  debt := r.totalScaledBorrow.val *
    growthDust r.borrowIndex x.borrowerRate x.timeFraction x.biFactor
  claims := r.totalScaledLiquidity.val *
    growthDust r.liquidityIndex x.lenderRate x.timeFraction x.liFactor
  fee := x.timeFraction.toRat * dropped x.totalBorrow x.feeRate +
    dropped x.yearly x.timeFraction + (x.fee.atomics % decimalFractional : Nat) * ulp
  unshared := (r.debt * (x.borrowerRate.toRat - x.feeRate.toRat) -
    r.claims * x.lenderRate.toRat) * x.timeFraction.toRat

/-- What is left of the interest when all are served. -/
def AccrualDust.left (d : AccrualDust) : ℚ := d.claims + d.fee + d.unshared - d.debt

/-! ## The interest, exactly -/

theorem indexGrowthFactor_eq {rate f tf : Decimal256} {elapsed year : Nat}
    (h : indexGrowthFactor rate elapsed year = .ok f) (he : elapsed ≠ 0)
    (htf : fromRatio elapsed year = .ok tf) :
    f.toRat = 1 + rate.toRat * tf.toRat - dropped rate tf := by
  unfold indexGrowthFactor at h
  rw [if_neg he] at h
  simp only [bind_eq_ok, htf, Except.ok.injEq, exists_eq_left'] at h
  obtain ⟨g, hg, hf⟩ := h
  rw [toRat_checkedAdd hf, toRat_one, toRat_checkedMul hg]
  ring

/-- An index grows by the interest at its rate, less the dust. -/
theorem index_growth {i i' rate f tf : Decimal256} {elapsed year : Nat}
    (h : i.checkedMul f = .ok i') (hf : indexGrowthFactor rate elapsed year = .ok f)
    (he : elapsed ≠ 0) (htf : fromRatio elapsed year = .ok tf) :
    i'.toRat = i.toRat + i.toRat * rate.toRat * tf.toRat - growthDust i rate tf f := by
  rw [toRat_checkedMul h, indexGrowthFactor_eq hf he htf, growthDust]
  ring

/-- The fee is the protocol's share of the interest, less the dust. -/
theorem fee_eq {b fr tf yearly feeD : Decimal256} {fee : Uint128}
    (hyearly : b.checkedMul fr = .ok yearly) (hfeeD : yearly.checkedMul tf = .ok feeD)
    (hfee : fee.val = feeD.atomics / decimalFractional) :
    (fee.val : ℚ) = b.toRat * fr.toRat * tf.toRat - (tf.toRat * dropped b fr +
      dropped yearly tf + (feeD.atomics % decimalFractional : Nat) * ulp) := by
  have hsplit := Nat.div_add_mod feeD.atomics decimalFractional
  rw [← hfee] at hsplit
  have hcast : (decimalFractional : ℚ) * fee.val + (feeD.atomics % decimalFractional : Nat) =
      feeD.atomics := by exact_mod_cast hsplit
  have hwhole : feeD.toRat = fee.val + (feeD.atomics % decimalFractional : Nat) * ulp := by
    rw [toRat_eq]
    linear_combination (-ulp) * hcast + (fee.val : ℚ) * ulp_mul_decimalFractional
  have hyear := toRat_checkedMul hyearly
  have hprod := toRat_checkedMul hfeeD
  rw [hyear] at hprod
  linarith

/-- What the interest leaves to the protocol: the growth of the debt less that of the
claims. -/
def protocolShare (r r' : ReserveStateV1) : ℚ := (r'.debt - r.debt) - (r'.claims - r.claims)

/-- The terms of an accrual, with what they are computed from. -/
structure AccrualTerms.Valid (x : AccrualTerms) (r : ReserveStateV1) (p : RateParamsV1)
    (elapsed : Nat) : Prop where
  totalBorrow : r.totalBorrow = .ok x.totalBorrow
  utilization : r.utilization = .ok x.utilization
  borrowerRate : borrowerRateFromUtilization p x.utilization = .ok x.borrowerRate
  lenderRate : lenderRateFromUtilization p x.utilization x.borrowerRate = .ok x.lenderRate
  liFactor : indexGrowthFactor x.lenderRate elapsed secondsPerYear = .ok x.liFactor
  biFactor : indexGrowthFactor x.borrowerRate elapsed secondsPerYear = .ok x.biFactor
  timeFraction : Decimal256.fromRatio elapsed secondsPerYear = .ok x.timeFraction
  feeRate : protocolFeeRate p x.borrowerRate = .ok x.feeRate
  yearly : x.totalBorrow.checkedMul x.feeRate = .ok x.yearly
  fee : x.yearly.checkedMul x.timeFraction = .ok x.fee

theorem AccrualTerms.valid {x : AccrualTerms} {r : ReserveStateV1} {p : RateParamsV1}
    {elapsed : Nat} (h : accrualTerms r p elapsed = .ok x) : x.Valid r p elapsed := by
  simp only [accrualTerms, bind_eq_ok, pure_eq_ok] at h
  obtain ⟨b, hb, u, hu, br, hbr, lr, hlr, lf, hlf, bf, hbf, tf, htf, fr, hfr, yearly, hyearly,
    fee, hfee, rfl⟩ := h
  exact ⟨hb, hu, hbr, hlr, hlf, hbf, htf, hfr, hyearly, hfee⟩

/-- The fee and the dust that is left make up the protocol's share. -/
theorem accrueInterest_dust {r r' : ReserveStateV1} {t : Timestamp} {elapsed : Nat}
    {p : RateParamsV1} (h : accrueInterest r t elapsed p = .ok r') (he : elapsed ≠ 0) :
    ∃ (x : AccrualTerms) (fee : Uint128), accrualTerms r p elapsed = .ok x ∧
      fee.val = x.fee.atomics / decimalFractional ∧
      r'.accruedReserve = r.accruedReserve.saturatingAdd fee ∧
      protocolShare r r' = fee.val + (x.dust r).left := by
  simp only [accrueInterest, bind_eq_ok, pure_eq_ok] at h
  obtain ⟨b, hb, u, hu, br, hbr, lr, hlr, lf, hlf, bf, hbf, li, hli, bi, hbi, fee, hfee, rfl⟩ := h
  simp only [protocolFee, bind_eq_ok, decimalFloorToU128, okOr_eq_ok,
    Uint.ofNat?_eq_some] at hfee
  obtain ⟨tf, htf, fr, hfr, yearly, hyearly, feeD, hfeeD, hfee⟩ := hfee
  refine ⟨⟨b, u, br, lr, lf, bf, tf, fr, yearly, feeD⟩, fee, ?_, hfee, rfl, ?_⟩
  · simp only [accrualTerms, bind_eq_ok, hb, hu, hbr, hlr, hlf, hbf, htf, hfr, hyearly, hfeeD,
      Except.ok.injEq, exists_eq_left', pure_eq_ok]
  · have hliquidity := index_growth hli hlf he htf
    have hborrow := index_growth hbi hbf he htf
    have hbooked := fee_eq hyearly hfeeD hfee
    rw [ReserveStateV1.debt_eq_toRat hb] at hbooked
    simp only [protocolShare, AccrualDust.left, AccrualTerms.dust, ReserveStateV1.debt,
      ReserveStateV1.claims] at hbooked ⊢
    rw [hliquidity, hborrow, hbooked]
    ring

/-! ## How large the parts are -/

theorem growthDust_nonneg (i rate tf f : Decimal256) : 0 ≤ growthDust i rate tf f :=
  add_nonneg (mul_nonneg (toRat_nonneg i) (dropped_nonneg rate tf)) (dropped_nonneg i f)

theorem growthDust_le (i rate tf f : Decimal256) :
    growthDust i rate tf f ≤ (i.toRat + 1) * ulp := by
  have hrate := mul_le_mul_of_nonneg_left (dropped_lt rate tf).le (toRat_nonneg i)
  have hindex := (dropped_lt i f).le
  unfold growthDust
  linarith

namespace AccrualTerms

variable {x : AccrualTerms} {r : ReserveStateV1} {p : RateParamsV1} {elapsed : Nat}

theorem dust_debt_nonneg (x : AccrualTerms) (r : ReserveStateV1) : 0 ≤ (x.dust r).debt :=
  mul_nonneg (Nat.cast_nonneg _) (growthDust_nonneg _ _ _ _)

theorem dust_debt_le (x : AccrualTerms) (r : ReserveStateV1) :
    (x.dust r).debt ≤ (r.debt + r.totalScaledBorrow.val) * ulp := by
  have hle := mul_le_mul_of_nonneg_left
    (growthDust_le r.borrowIndex x.borrowerRate x.timeFraction x.biFactor)
    (Nat.cast_nonneg (α := ℚ) r.totalScaledBorrow.val)
  show (r.totalScaledBorrow.val : ℚ) * growthDust _ _ _ _ ≤ _
  unfold ReserveStateV1.debt
  linarith

theorem dust_claims_nonneg (x : AccrualTerms) (r : ReserveStateV1) : 0 ≤ (x.dust r).claims :=
  mul_nonneg (Nat.cast_nonneg _) (growthDust_nonneg _ _ _ _)

theorem dust_claims_le (x : AccrualTerms) (r : ReserveStateV1) :
    (x.dust r).claims ≤ (r.claims + r.totalScaledLiquidity.val) * ulp := by
  have hle := mul_le_mul_of_nonneg_left
    (growthDust_le r.liquidityIndex x.lenderRate x.timeFraction x.liFactor)
    (Nat.cast_nonneg (α := ℚ) r.totalScaledLiquidity.val)
  show (r.totalScaledLiquidity.val : ℚ) * growthDust _ _ _ _ ≤ _
  unfold ReserveStateV1.claims
  linarith

/-- The floor drops the fraction of the fee, and the two truncations hardly anything. -/
theorem fraction_le_dust_fee (x : AccrualTerms) (r : ReserveStateV1) :
    ((x.fee.atomics % decimalFractional : Nat) : ℚ) * ulp ≤ (x.dust r).fee := by
  have hyearly := mul_nonneg (toRat_nonneg x.timeFraction) (dropped_nonneg x.totalBorrow x.feeRate)
  have hfee := dropped_nonneg x.yearly x.timeFraction
  show _ ≤ x.timeFraction.toRat * dropped _ _ + dropped _ _ + _
  linarith

theorem dust_fee_nonneg (x : AccrualTerms) (r : ReserveStateV1) : 0 ≤ (x.dust r).fee :=
  le_trans (mul_nonneg (Nat.cast_nonneg _) ulp_pos.le) (fraction_le_dust_fee x r)

/-- The shares of the lenders and of the protocol are at most the whole. -/
theorem Valid.dust_unshared_nonneg (h : x.Valid r p elapsed) : 0 ≤ (x.dust r).unshared := by
  obtain ⟨hfee, hlender⟩ := lenderRate_le h.lenderRate h.feeRate
  have hused := utilization_mul_claims_le h.utilization
  have hshare : r.claims * x.lenderRate.toRat ≤
      r.debt * (x.borrowerRate.toRat - x.feeRate.toRat) :=
    calc r.claims * x.lenderRate.toRat
        ≤ r.claims * (x.utilization.toRat * (x.borrowerRate.toRat - x.feeRate.toRat)) :=
          mul_le_mul_of_nonneg_left hlender r.claims_nonneg
      _ = x.utilization.toRat * r.claims * (x.borrowerRate.toRat - x.feeRate.toRat) := by ring
      _ ≤ r.debt * (x.borrowerRate.toRat - x.feeRate.toRat) :=
          mul_le_mul_of_nonneg_right hused (sub_nonneg.mpr hfee)
  exact mul_nonneg (sub_nonneg.mpr hshare) (toRat_nonneg _)

/-- The floor drops less than one unit of the fee. -/
theorem dust_fee_le (x : AccrualTerms) (r : ReserveStateV1) :
    (x.dust r).fee ≤ 1 + x.timeFraction.toRat * ulp := by
  have hmod : x.fee.atomics % decimalFractional + 1 ≤ decimalFractional :=
    Nat.mod_lt _ (by decide)
  have hcast : ((x.fee.atomics % decimalFractional : Nat) : ℚ) + 1 ≤ decimalFractional := by
    exact_mod_cast hmod
  have hfraction := mul_le_mul_of_nonneg_right hcast ulp_pos.le
  have hwhole := ulp_mul_decimalFractional
  have hyearly := mul_le_mul_of_nonneg_left (dropped_lt x.totalBorrow x.feeRate).le
    (toRat_nonneg x.timeFraction)
  have hfee := (dropped_lt x.yearly x.timeFraction).le
  show x.timeFraction.toRat * dropped _ _ + dropped _ _ + _ ≤ _
  linarith

/-- What the truncated rates give to nobody in a year: hardly anything of the claims and of
the debt, -/
theorem Valid.unshared_rates_le (h : x.Valid r p elapsed) (hclaims : r.claims ≠ 0) :
    r.debt * (x.borrowerRate.toRat - x.feeRate.toRat) - r.claims * x.lenderRate.toRat ≤
      ((2 * x.borrowerRate.toRat + 1) * r.claims + r.debt) * ulp := by
  have hdebt := debt_le_utilization h.utilization hclaims
  have hc := r.claims_nonneg
  have hd := r.debt_nonneg
  have hbr := toRat_nonneg x.borrowerRate
  have hulp := ulp_pos.le
  have hlender := h.lenderRate
  have hfee := h.feeRate
  unfold lenderRateFromUtilization at hlender
  unfold protocolFeeRate at hfee
  cases hmodel : p.feeModel with
  | reserveFactor =>
    rw [hmodel] at hlender hfee
    simp only [bind_eq_ok] at hlender
    obtain ⟨keep, hkeep, mult, hmult, hlr⟩ := hlender
    have hkeep := toRat_checkedSub hkeep
    rw [toRat_one] at hkeep
    have hkeep0 := toRat_nonneg keep
    have hkeep1 : keep.toRat ≤ 1 := by
      have := toRat_nonneg p.reserveFactor
      linarith
    -- The lenders' rate, against the share of the utilization.
    have hmult_le := (lt_toRat_checkedMul hmult).le
    have hlr_le := (lt_toRat_checkedMul hlr).le
    have hfr_le := (lt_toRat_checkedMul hfee).le
    have hrate : x.borrowerRate.toRat * (x.utilization.toRat * keep.toRat) ≤
        x.lenderRate.toRat + x.borrowerRate.toRat * ulp + ulp := by
      have := mul_le_mul_of_nonneg_left hmult_le hbr
      linarith
    have hlenders := mul_le_mul_of_nonneg_left hrate hc
    have hkept := mul_le_mul_of_nonneg_left hdebt (mul_nonneg hbr hkeep0)
    have hprotocol := mul_le_mul_of_nonneg_left hfr_le hd
    have hslack : x.borrowerRate.toRat * keep.toRat * (ulp * r.claims) ≤
        x.borrowerRate.toRat * (ulp * r.claims) :=
      mul_le_mul_of_nonneg_right (mul_le_of_le_one_right hbr hkeep1) (mul_nonneg hulp hc)
    rw [show p.reserveFactor.toRat = 1 - keep.toRat by linarith] at hprotocol
    linarith
  | flatBorrowSpread =>
    rw [hmodel] at hlender hfee
    simp only [bind_eq_ok] at hlender
    obtain ⟨spread, hspread, hlr⟩ := hlender
    have hfr := pure_eq_ok.mp hfee
    have hspread := toRat_checkedSub hspread
    rw [hfr] at hspread
    have hspread0 := toRat_nonneg spread
    have hfr0 := toRat_nonneg x.feeRate
    have hlr_le := (lt_toRat_checkedMul hlr).le
    have hlenders := mul_le_mul_of_nonneg_left hlr_le hc
    have hkept := mul_le_mul_of_nonneg_left hdebt hspread0
    have hslack : spread.toRat * (ulp * r.claims) ≤ x.borrowerRate.toRat * (ulp * r.claims) := by
      apply mul_le_mul_of_nonneg_right _ (mul_nonneg hulp hc)
      linarith
    have hdust : 0 ≤ (x.borrowerRate.toRat * r.claims + r.debt) * ulp :=
      mul_nonneg (add_nonneg (mul_nonneg hbr hc) hd) hulp
    rw [← hspread]
    linarith

/-- What an accrual may leave to nobody: a unit of the fee, and the last decimals of the
rest.  Without lenders it is the lenders' share. -/
def slack (x : AccrualTerms) (r : ReserveStateV1) : ℚ :=
  1 + (r.claims + r.totalScaledLiquidity.val + x.timeFraction.toRat) * ulp +
    (if r.claims = 0 then r.debt * x.borrowerRate.toRat
      else ((2 * x.borrowerRate.toRat + 1) * r.claims + r.debt) * ulp) * x.timeFraction.toRat

theorem Valid.dust_unshared_le (h : x.Valid r p elapsed) : (x.dust r).unshared ≤
    (if r.claims = 0 then r.debt * x.borrowerRate.toRat
      else ((2 * x.borrowerRate.toRat + 1) * r.claims + r.debt) * ulp) * x.timeFraction.toRat := by
  apply mul_le_mul_of_nonneg_right _ (toRat_nonneg _)
  split
  · rename_i hzero
    rw [hzero, zero_mul, sub_zero]
    apply mul_le_mul_of_nonneg_left _ r.debt_nonneg
    have := toRat_nonneg x.feeRate
    linarith
  · rename_i hclaims
    exact h.unshared_rates_le hclaims

theorem Valid.left_le (h : x.Valid r p elapsed) : (x.dust r).left ≤ x.slack r := by
  have hdebt := x.dust_debt_nonneg r
  have hclaims := x.dust_claims_le r
  have hfee := x.dust_fee_le r
  have hunshared := h.dust_unshared_le
  unfold AccrualDust.left slack
  linarith

end AccrualTerms

/-! ## What rounding costs the surplus -/

namespace AccruedTo

variable {s : PoolStorage} {t : Timestamp} {r : ReserveStateV1}

/-- What rounding may cost in one accrual, and nothing within the same second. -/
def roundingLoss (r : ReserveStateV1) (elapsed : Nat) : ℚ :=
  if elapsed = 0 then 0 else (r.debt + r.totalScaledBorrow.val) * ulp

/-- The claims and the fee grow by no more than the debt does, but for the rounding of
the borrow index. -/
theorem surplus (h : AccruedTo s t r) :
    s.reserve.debt - s.reserve.claims - s.reserve.accruedReserve.val -
        roundingLoss s.reserve (timeElapsedSeconds s.reserve.lastUpdatedAt t) ≤
      r.debt - r.claims - r.accruedReserve.val := by
  unfold roundingLoss
  by_cases he : timeElapsedSeconds s.reserve.lastUpdatedAt t = 0
  · rw [if_pos he, h.sameSecond he, sub_zero]
  · obtain ⟨x, fee, hx, -, hacc, hshare⟩ := accrueInterest_dust (h.charged he) he
    -- The dust goes to the surplus, but for what the debt does not grow by.
    have hborrow := x.dust_debt_le s.reserve
    have hlend := x.dust_claims_nonneg s.reserve
    have hfloor := x.dust_fee_nonneg s.reserve
    have hrates := (AccrualTerms.valid hx).dust_unshared_nonneg
    have hbooked : (r.accruedReserve.val : ℚ) ≤ s.reserve.accruedReserve.val + fee.val := by
      rw [hacc]
      exact_mod_cast Uint.saturatingAdd_val_le _ _
    rw [if_neg he]
    unfold protocolShare AccrualDust.left at hshare
    linarith

end AccruedTo

end DemocratizedPrime
