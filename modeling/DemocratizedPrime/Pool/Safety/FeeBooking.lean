import DemocratizedPrime.Pool.ExactFee
import DemocratizedPrime.Pool.Replay
import Mathlib.Algebra.BigOperators.Ring.List

/-!
# How much of the interest the protocol books

An accrual books a floored fee, which is meant to stay below the protocol's exact share of
the interest, the growth of the debt less the growth of the claims.  The floor drops the
fraction of a unit that the fee has, but the truncation of the borrow index drops up to
`(tsb · bi + tsb) · 10 ^ -18` of the share, and with large totals that is more.

* `AccrualStep.booked`: the fee that an accrual books and what rounding leaves of the interest
  (`interestLeft`) make up the exact share.
* `feeMargin`: what of that can be told from the totals, the indexes, the parameters and the
  elapsed time: the fraction of a unit of the exact fee, less the rounding loss.
* `accrued_reserve_le_share`: the fees stay within the shares when the margins add up to
  nothing negative.
* `LargeReserve.overbooked`: a reserve whose debt is large enough has no such margin, and is
  overbooked at some valid rates.
-/

namespace DemocratizedPrime

open Result Decimal256 Transitions

/-- An accrual that is saved: up to which time, and with which rates. -/
structure AccrualCall where
  asOfTime : Timestamp
  params : RateParamsV1

/-- The accrual of a handler, saved. -/
def saveAccrual (store : PoolStorage) (call : AccrualCall) : ContractResult PoolStorage := do
  let reserve ← computeEffectiveReserve store call.asOfTime call.params
  return store.setReserveStateV1 reserve

/-- An accrual that succeeds. -/
def AccrualStep (s : PoolStorage) (call : AccrualCall) (s' : PoolStorage) : Prop :=
  saveAccrual s call = .ok s'

/-- What the roundings of an accrual leave of the interest, less what the truncation of the
borrow index drops. -/
def interestLeft (s : PoolStorage) (call : AccrualCall) : ℚ :=
  let elapsed := timeElapsedSeconds s.reserve.lastUpdatedAt call.asOfTime
  if elapsed = 0 then 0
  else match accrualTerms s.reserve call.params elapsed with
    | .ok x => (x.dust s.reserve).left
    | .error _ => 0

/-- The protocol's share of an accrual of a run. -/
def shareOf (x : Transition PoolStorage AccrualCall) : ℚ :=
  protocolShare x.pre.reserve x.post.reserve

variable {s₀ s s' : PoolStorage} {call : AccrualCall}
  {ts : List (Transition PoolStorage AccrualCall)}

theorem interestLeft_sameSecond
    (he : timeElapsedSeconds s.reserve.lastUpdatedAt call.asOfTime = 0) :
    interestLeft s call = 0 := if_pos he

theorem interestLeft_of_terms {x : AccrualTerms}
    (he : timeElapsedSeconds s.reserve.lastUpdatedAt call.asOfTime ≠ 0)
    (hx : accrualTerms s.reserve call.params
      (timeElapsedSeconds s.reserve.lastUpdatedAt call.asOfTime) = .ok x) :
    interestLeft s call = (x.dust s.reserve).left := by
  unfold interestLeft
  rw [if_neg he, hx]

/-- One accrual: the fee that it books and what it leaves make up the share. -/
theorem AccrualStep.booked (h : AccrualStep s call s') :
    ∃ fee : Uint128, s'.reserve.accruedReserve = s.reserve.accruedReserve.saturatingAdd fee ∧
      protocolShare s.reserve s'.reserve = fee.val + interestLeft s call := by
  simp only [AccrualStep, saveAccrual, bind_eq_ok, pure_eq_ok] at h
  obtain ⟨r, hr, rfl⟩ := h
  unfold computeEffectiveReserve at hr
  by_cases he : timeElapsedSeconds s.reserve.lastUpdatedAt call.asOfTime = 0
  · rw [if_pos he] at hr
    rw [← pure_eq_ok.mp hr]
    refine ⟨0, ?_, ?_⟩
    · apply Uint.ext
      have hlt := s.reserve.accruedReserve.isLt
      show s.reserve.accruedReserve.val = _
      rw [Uint.saturatingAdd_val, Uint.val_zero]
      exact (Nat.min_eq_left (by omega)).symm
    · show protocolShare s.reserve s.reserve = _
      rw [interestLeft_sameSecond he, protocolShare]
      simp
  · rw [if_neg he] at hr
    obtain ⟨x, fee, hx, -, hacc, hshare⟩ := accrueInterest_dust hr he
    refine ⟨fee, hacc, ?_⟩
    rw [interestLeft_of_terms he hx]
    exact hshare

/-- The booked fees stay below the shares by at least what is left. -/
theorem accruals_booked_le (run : Run AccrualStep s₀ ts s) :
    (s.reserve.accruedReserve.val : ℚ) + (ts.map fun x => interestLeft x.pre x.label).sum ≤
      s₀.reserve.accruedReserve.val + (ts.map shareOf).sum := by
  apply run.sum_le (I := fun _ => True) (P := fun _ => True)
    (m := fun s => (s.reserve.accruedReserve.val : ℚ))
  · intros
    trivial
  · intro s call s' _ _ h
    obtain ⟨fee, hacc, hshare⟩ := h.booked
    have hsat : (s'.reserve.accruedReserve.val : ℚ) ≤ s.reserve.accruedReserve.val + fee.val := by
      rw [hacc]
      exact_mod_cast Uint.saturatingAdd_val_le _ _
    show (s'.reserve.accruedReserve.val : ℚ) + interestLeft s call ≤
      s.reserve.accruedReserve.val + protocolShare s.reserve s'.reserve
    rw [hshare]
    linarith
  · intros
    trivial
  · trivial

/-! ## The condition on the state before -/

/-- The fraction of a unit that the exact fee of an accrual has, less what the truncations can
take off the share. -/
def feeMargin (s : PoolStorage) (call : AccrualCall) : ℚ :=
  let elapsed := timeElapsedSeconds s.reserve.lastUpdatedAt call.asOfTime
  if elapsed = 0 then 0
  else Int.fract (exactFee s.reserve call.params elapsed) -
    feeRoundingLoss s.reserve call.params elapsed

/-- The margin is a lower bound of what the accrual leaves. -/
theorem AccrualStep.feeMargin_le (h : AccrualStep s call s')
    (hvalid : call.params.validate = .ok ()) : feeMargin s call ≤ interestLeft s call := by
  by_cases he : timeElapsedSeconds s.reserve.lastUpdatedAt call.asOfTime = 0
  · rw [interestLeft_sameSecond he, feeMargin, if_pos he]
  · have hp := RateParamsV1.validate_spec hvalid
    simp only [AccrualStep, saveAccrual, bind_eq_ok, pure_eq_ok] at h
    obtain ⟨r, hr, -⟩ := h
    unfold computeEffectiveReserve at hr
    rw [if_neg he] at hr
    obtain ⟨x, fee, hx, hfee, -, hshare⟩ := accrueInterest_dust hr he
    have hbooked := (AccrualTerms.valid hx).booked_le_exactFee hp hfee
    have hexact := exactFee_le_protocolShare hr he hp
    rw [interestLeft_of_terms he hx, feeMargin, if_neg he, Int.fract]
    linarith

/-- Along every sequence of accruals with validated rates from an empty counter, the booked fees
are at most the shares if the margins add up to nothing negative. -/
theorem accruals_within_margins (hzero : s₀.reserve.accruedReserve.val = 0)
    (run : Run AccrualStep s₀ ts s)
    (hvalid : ∀ x ∈ ts, x.label.params.validate = .ok ())
    (hmargin : 0 ≤ (ts.map fun x => feeMargin x.pre x.label).sum) :
    (s.reserve.accruedReserve.val : ℚ) ≤ (ts.map shareOf).sum := by
  have hle := accruals_booked_le run
  have hleft : (ts.map fun x => feeMargin x.pre x.label).sum ≤
      (ts.map fun x => interestLeft x.pre x.label).sum := by
    apply List.sum_le_sum
    intro x hx
    exact (run.isStep x hx).feeMargin_le (hvalid x hx)
  rw [hzero, Nat.cast_zero] at hle
  linarith

/-! ## Large reserves

At `thinRates` the interest of a second is less than the last decimal of an index, so nobody
is charged.  The fee is computed from the rate itself: of a large debt it is a whole unit. -/

/-- A reserve whose debt is at least `1.02 · 10 ^ 18` base units, and covered by the claims. -/
structure LargeReserve (r : ReserveStateV1) : Prop where
  debt : 102 * 10 ^ 34 ≤ r.totalScaledBorrow.val * r.borrowIndex.atomics
  covered : r.totalScaledBorrow.val * r.borrowIndex.atomics ≤
    r.totalScaledLiquidity.val * r.liquidityIndex.atomics
  fits : r.totalScaledLiquidity.val * r.liquidityIndex.atomics < 2 ^ 128 * decimalFractional

/-- The rate whose interest of a second is just less than one `ulp`. -/
def thinRate : Decimal256 := ⟨31536000, by decide⟩

/-- A flat curve at that rate, of which the protocol gets nearly all. -/
def thinRates : RateParamsV1 where
  targetRate := thinRate
  minRate := thinRate
  maxRate := thinRate
  kinkUtilization := ⟨700000000000000000, by decide⟩
  reserveFactor := ⟨990000000000000000, by decide⟩
  feeModel := .reserveFactor
  flatFeeApr := Decimal256.zero
  secondsPerYear := 31536000

theorem thinRates_validate : thinRates.validate = .ok () := by decide

/-- A second, as a part of a year. -/
def oneSecond : Decimal256 := ⟨31709791983, by decide⟩

theorem oneSecond_eq : fromRatio 1 secondsPerYear = .ok oneSecond := by decide

theorem thinRates_borrowerRate (u : Decimal256) :
    borrowerRateFromUtilization thinRates u = .ok thinRate := by
  have hrange : thinRate.checkedSub thinRate = .ok Decimal256.zero := by decide
  have hgrowth (v : Decimal256) : Decimal256.zero.checkedMul v = .ok Decimal256.zero := by
    rw [checkedMul_eq_ok, atomics_zero, Nat.zero_mul, Nat.zero_div]
  have hsum : thinRate.checkedAdd Decimal256.zero = .ok thinRate := by decide
  unfold borrowerRateFromUtilization
  split
  · have hslope : Decimal256.zero.checkedDiv thinRates.kinkUtilization = .ok Decimal256.zero := by
      decide
    unfold rateBelowKink
    rw [if_neg (by decide)]
    simp only [bind_eq_ok]
    exact ⟨_, hrange, _, hslope, _, hgrowth u, hsum⟩
  · rename_i hu
    have hexcess : IsOk (u.checkedSub thinRates.kinkUtilization) :=
      isOk_checkedSub_iff.mpr (Nat.le_of_lt (Nat.not_le.mp hu))
    obtain ⟨excess, hexcess⟩ := hexcess
    have habove : Decimal256.one.checkedSub thinRates.kinkUtilization =
        .ok ⟨300000000000000000, by decide⟩ := by decide
    have hslope : Decimal256.zero.checkedDiv ⟨300000000000000000, by decide⟩ =
        .ok Decimal256.zero := by decide
    unfold rateAboveKink
    simp only [habove, ok_bind]
    rw [if_neg (by decide)]
    simp only [bind_eq_ok]
    exact ⟨_, hexcess, _, hrange, _, hslope, _, hgrowth excess, _, hsum, rfl⟩

/-- The lenders' part of the rate is smaller still. -/
theorem thinRates_lenderRate {u : Decimal256} (hu : u ≤ Decimal256.one) :
    ∃ rate, lenderRateFromUtilization thinRates u thinRate = .ok rate ∧ rate ≤ thinRate := by
  have hkeep : Decimal256.one.checkedSub thinRates.reserveFactor =
      .ok ⟨10000000000000000, by decide⟩ := by decide
  have hle : u.atomics ≤ decimalFractional := hu
  have hmult : u.atomics * 10000000000000000 / decimalFractional < 2 ^ 256 := by
    unfold decimalFractional at hle ⊢
    omega
  have hrate : thinRate.atomics * (u.atomics * 10000000000000000 / decimalFractional) /
      decimalFractional ≤ thinRate.atomics := by
    apply Nat.div_le_of_le_mul
    rw [Nat.mul_comm decimalFractional]
    apply Nat.mul_le_mul_left
    unfold decimalFractional at hle ⊢
    omega
  refine ⟨⟨_, Nat.lt_of_le_of_lt hrate thinRate.isLt⟩, ?_, hrate⟩
  show (do
    let keep ← Decimal256.one.checkedSub thinRates.reserveFactor
    let lenderMult ← u.checkedMul keep
    thinRate.checkedMul lenderMult) = _
  simp only [bind_eq_ok]
  exact ⟨_, hkeep, ⟨_, hmult⟩, checkedMul_eq_ok.mpr rfl, checkedMul_eq_ok.mpr rfl⟩

/-- No index grows in a second. -/
theorem indexGrowthFactor_thin {rate : Decimal256} (h : rate ≤ thinRate) :
    indexGrowthFactor rate 1 secondsPerYear = .ok Decimal256.one := by
  have hgrowth : rate.checkedMul oneSecond = .ok Decimal256.zero := by
    have hproduct : rate.atomics * oneSecond.atomics < decimalFractional :=
      Nat.lt_of_le_of_lt (Nat.mul_le_mul_right _ h) (by decide)
    rw [checkedMul_eq_ok, Nat.div_eq_of_lt hproduct, atomics_zero]
  unfold indexGrowthFactor
  rw [if_neg one_ne_zero]
  simp only [bind_eq_ok]
  exact ⟨_, oneSecond_eq, _, hgrowth, by decide⟩

namespace LargeReserve

variable {r : ReserveStateV1}

/-- The utilization of a covered debt is at most one. -/
theorem exists_utilization (h : LargeReserve r) :
    ∃ u, r.utilization = .ok u ∧ u ≤ Decimal256.one := by
  obtain ⟨hdebt, hcovered, hfits⟩ := h
  have hl := totalLiquidity_eq_ok (l := ⟨_, Nat.lt_trans hfits (by decide)⟩).mpr rfl
  have hb := totalBorrow_eq_ok
    (b := ⟨_, Nat.lt_of_le_of_lt hcovered (Nat.lt_trans hfits (by decide))⟩).mpr rfl
  have hpos : 0 < r.totalScaledLiquidity.val * r.liquidityIndex.atomics := by omega
  have hu : r.totalScaledBorrow.val * r.borrowIndex.atomics * decimalFractional /
      (r.totalScaledLiquidity.val * r.liquidityIndex.atomics) ≤ decimalFractional := by
    apply Nat.div_le_of_le_mul
    exact Nat.mul_le_mul_right _ hcovered
  refine ⟨⟨_, Nat.lt_of_le_of_lt hu (by decide)⟩, ?_, hu⟩
  unfold ReserveStateV1.utilization
  rw [hl, ok_bind, if_neg (mt isZero_iff.mp hpos.ne'), hb, ok_bind, checkedDiv_eq_ok]
  exact ⟨hpos.ne', rfl⟩

/-- The fee of a second is a unit or more. -/
theorem exists_fee (h : LargeReserve r) {b : Decimal256} (hb : r.totalBorrow = .ok b) :
    ∃ fee, protocolFee thinRates b thinRate 1 = .ok fee ∧ 0 < fee.val := by
  have hb := totalBorrow_eq_ok.mp hb
  have hlower : 102 * 10 ^ 34 ≤ b.atomics := by
    rw [hb]
    exact h.debt
  have hupper : b.atomics < 2 ^ 128 * decimalFractional := by
    rw [hb]
    exact Nat.lt_of_le_of_lt h.covered h.fits
  have hrate : protocolFeeRate thinRates thinRate = .ok ⟨31220640, by decide⟩ := by decide
  have hpart {a c : Nat} (hc : c ≤ decimalFractional) : a * c / decimalFractional ≤ a := by
    apply Nat.div_le_of_le_mul
    rw [Nat.mul_comm decimalFractional]
    exact Nat.mul_le_mul_left a hc
  have hyearly_le : b.atomics * 31220640 / decimalFractional ≤ b.atomics := hpart (by decide)
  have hfee_le : b.atomics * 31220640 / decimalFractional * 31709791983 / decimalFractional ≤
      b.atomics := Nat.le_trans (hpart (by decide)) hyearly_le
  have hfits : b.atomics * 31220640 / decimalFractional * 31709791983 / decimalFractional /
      decimalFractional < 2 ^ 128 := by
    rw [Nat.div_lt_iff_lt_mul (by decide)]
    exact Nat.lt_of_le_of_lt hfee_le hupper
  refine ⟨⟨_, hfits⟩, ?_, ?_⟩
  · have hlt := b.isLt
    simp only [protocolFee, bind_eq_ok, decimalFloorToU128, okOr_eq_ok, Uint.ofNat?_eq_some]
    exact ⟨_, oneSecond_eq, _, hrate, ⟨_, Nat.lt_of_le_of_lt hyearly_le hlt⟩,
      checkedMul_eq_ok.mpr rfl, ⟨_, Nat.lt_of_le_of_lt hfee_le hlt⟩, checkedMul_eq_ok.mpr rfl, rfl⟩
  · have hyearly : 102 * 10 ^ 34 * 31220640 / decimalFractional ≤
        b.atomics * 31220640 / decimalFractional :=
      Nat.div_le_div_right (Nat.mul_le_mul_right _ hlower)
    apply Nat.div_pos _ (by decide)
    calc decimalFractional ≤ 102 * 10 ^ 34 * 31220640 / decimalFractional * 31709791983 /
          decimalFractional := by decide
      _ ≤ b.atomics * 31220640 / decimalFractional * 31709791983 / decimalFractional :=
        Nat.div_le_div_right (Nat.mul_le_mul_right _ hyearly)

/-- A second at the thin rates costs the borrowers nothing, and books a fee. -/
theorem overbooked (h : LargeReserve s.reserve) (hzero : s.reserve.accruedReserve.val = 0)
    {t : Timestamp} (ht : timeElapsedSeconds s.reserve.lastUpdatedAt t = 1) :
    ∃ s', AccrualStep s ⟨t, thinRates⟩ s' ∧
      protocolShare s.reserve s'.reserve < s'.reserve.accruedReserve.val := by
  obtain ⟨u, hu, hu1⟩ := h.exists_utilization
  obtain ⟨lr, hlr, hlr1⟩ := thinRates_lenderRate hu1
  have hb := totalBorrow_eq_ok (r := s.reserve)
    (b := ⟨_, Nat.lt_of_le_of_lt h.covered (Nat.lt_trans h.fits (by decide))⟩).mpr rfl
  obtain ⟨fee, hfee, hpos⟩ := h.exists_fee hb
  have hkeep (i : Decimal256) : i.checkedMul Decimal256.one = .ok i := by
    rw [checkedMul_eq_ok, atomics_one, Nat.mul_div_cancel _ (by decide)]
  have haccrual : accrueInterest s.reserve t 1 thinRates = .ok { s.reserve with
      lastUpdatedAt := t
      accruedReserve := s.reserve.accruedReserve.saturatingAdd fee } := by
    simp only [accrueInterest, bind_eq_ok]
    exact ⟨_, hb, u, hu, _, thinRates_borrowerRate u, lr, hlr, _, indexGrowthFactor_thin hlr1,
      _, indexGrowthFactor_thin (Nat.le_refl _), _, hkeep _, _, hkeep _, fee, hfee, rfl⟩
  refine ⟨s.setReserveStateV1 { s.reserve with
    lastUpdatedAt := t
    accruedReserve := s.reserve.accruedReserve.saturatingAdd fee }, ?_, ?_⟩
  · simp only [AccrualStep, saveAccrual, computeEffectiveReserve, ht, one_ne_zero, if_false,
      haccrual, ok_bind]
    rfl
  · have hbooked : 0 < (s.reserve.accruedReserve.saturatingAdd fee).val := by
      have hlt := fee.isLt
      rw [Uint.saturatingAdd_val, hzero]
      omega
    have hshare : protocolShare s.reserve { s.reserve with
        lastUpdatedAt := t
        accruedReserve := s.reserve.accruedReserve.saturatingAdd fee } = 0 := by
      simp [protocolShare, ReserveStateV1.debt, ReserveStateV1.claims]
    show protocolShare s.reserve { s.reserve with
      lastUpdatedAt := t
      accruedReserve := s.reserve.accruedReserve.saturatingAdd fee } < _
    rw [hshare]
    exact_mod_cast hbooked

/-- And no accrual has a margin: a fraction is less than one, which the rounding loss exceeds. -/
theorem feeMargin_neg (h : LargeReserve s.reserve) {call : AccrualCall}
    (hvalid : call.params.validate = .ok ())
    (he : timeElapsedSeconds s.reserve.lastUpdatedAt call.asOfTime ≠ 0) :
    feeMargin s call < 0 := by
  have hp := RateParamsV1.validate_spec hvalid
  have hdebt : (102 / 100 : ℚ) ≤ s.reserve.debt * ulp := by
    have hcast : (102 * 10 ^ 34 : ℚ) ≤
        s.reserve.totalScaledBorrow.val * s.reserve.borrowIndex.atomics := by
      exact_mod_cast h.debt
    have hscaled := mul_le_mul_of_nonneg_right hcast (mul_nonneg ulp_pos.le ulp_pos.le)
    have hunit : (102 * 10 ^ 34 : ℚ) * (ulp * ulp) = 102 / 100 := by
      unfold ulp decimalFractional
      norm_num
    unfold ReserveStateV1.debt
    rw [toRat_eq]
    linarith
  have hrate := hp.exactFeeRate_nonneg s.reserve
  have hloss := hp.feeRateLoss_nonneg
  have hyears := exactYears_nonneg (timeElapsedSeconds s.reserve.lastUpdatedAt call.asOfTime)
  have hfract := Int.fract_lt_one (exactFee s.reserve call.params
    (timeElapsedSeconds s.reserve.lastUpdatedAt call.asOfTime))
  have hrest : 0 ≤ s.reserve.debt * (call.params.exactFeeRate s.reserve + call.params.feeRateLoss *
      exactYears (timeElapsedSeconds s.reserve.lastUpdatedAt call.asOfTime)) * ulp +
      s.reserve.totalScaledBorrow.val * ulp := by
    have := s.reserve.debt_nonneg
    have := ulp_pos.le
    positivity
  rw [feeMargin, if_neg he, feeRoundingLoss]
  linarith

end LargeReserve

/-- Along every sequence of accruals with validated rates from an empty counter: the booked fees
are at most the shares if the margins add up to nothing negative, so if no accrual has a
negative one.  A large reserve has no other margins, and one second at valid rates books more
than its share. -/
theorem accrued_reserve_le_share (hzero : s₀.reserve.accruedReserve.val = 0)
    (run : Run AccrualStep s₀ ts s)
    (hvalid : ∀ x ∈ ts, x.label.params.validate = .ok ()) :
    (0 ≤ (ts.map fun x => feeMargin x.pre x.label).sum →
      (s.reserve.accruedReserve.val : ℚ) ≤ (ts.map shareOf).sum) ∧
    ((∀ x ∈ ts, 0 ≤ feeMargin x.pre x.label) →
      (s.reserve.accruedReserve.val : ℚ) ≤ (ts.map shareOf).sum) ∧
    (LargeReserve s₀.reserve →
      (∀ call : AccrualCall, call.params.validate = .ok () →
        timeElapsedSeconds s₀.reserve.lastUpdatedAt call.asOfTime ≠ 0 → feeMargin s₀ call < 0) ∧
      ∃ p : RateParamsV1, p.validate = .ok () ∧
        ∀ t, timeElapsedSeconds s₀.reserve.lastUpdatedAt t = 1 →
          ∃ s', AccrualStep s₀ ⟨t, p⟩ s' ∧
            protocolShare s₀.reserve s'.reserve < s'.reserve.accruedReserve.val) := by
  refine ⟨accruals_within_margins hzero run hvalid, fun hmargin => ?_, fun hlarge => ⟨?_, ?_⟩⟩
  · apply accruals_within_margins hzero run hvalid
    apply List.sum_nonneg
    intro margin hmem
    obtain ⟨x, hx, rfl⟩ := List.mem_map.mp hmem
    exact hmargin x hx
  · intro call hcall he
    exact hlarge.feeMargin_neg hcall he
  · exact ⟨thinRates, thinRates_validate, fun t ht => hlarge.overbooked hzero ht⟩

namespace Demo

/-- The accruals after half a year and after a year. -/
def halfYears : List AccrualCall :=
  [⟨(env 15768000).blockTime, msg.rateParams⟩, ⟨(env 31536000).blockTime, msg.rateParams⟩]

/-- The pool of the opening accrues twice, each time with a margin, and books a fee. -/
def halfYearsCheck (s : PoolStorage) : Bool :=
  decide (s.reserve.accruedReserve.val = 0) &&
    match replay (fun s call => (saveAccrual s call).map fun s' => (s', ())) (fun call _ => call)
      s halfYears with
    | .ok (ts, s') => decide (s'.reserve.accruedReserve.val = 4) &&
        ts.all fun x => decide (0 ≤ feeMargin x.pre x.label) &&
          decide (x.label.params.validate = .ok ())
    | .error _ => false

theorem halfYears_ok :
    replayCheck (deps 10) (env 0) ⟨"owner", []⟩ msg opening halfYearsCheck = true := by
  decide +kernel

/-- What the check says of the accruals. -/
theorem halfYears_check {s : PoolStorage} (h : halfYearsCheck s = true) :
    s.reserve.accruedReserve.val = 0 ∧ ∃ ts s', Run AccrualStep s ts s' ∧
      s'.reserve.accruedReserve.val = 4 ∧
      ∀ x ∈ ts, 0 ≤ feeMargin x.pre x.label ∧ x.label.params.validate = .ok () := by
  simp only [halfYearsCheck, Bool.and_eq_true, decide_eq_true_eq] at h
  obtain ⟨hzero, h⟩ := h
  refine ⟨hzero, ?_⟩
  split at h
  · rename_i ts s' hreplay
    simp only [Bool.and_eq_true, decide_eq_true_eq, List.all_eq_true] at h
    refine ⟨ts, s', run_of_replay ?_ hreplay, h.1, h.2⟩
    intro s call s' answer hcall
    cases hsave : saveAccrual s call with
    | ok saved =>
      rw [hsave] at hcall
      cases hcall
      exact hsave
    | error e =>
      rw [hsave] at hcall
      cases hcall
  · cases h

end Demo

/-- Four coins are booked in the year, which is not more than the share. -/
theorem accrued_reserve_le_share_halfYears :
    ∃ s₀ ts s, s₀.reserve.accruedReserve.val = 0 ∧ Run AccrualStep s₀ ts s ∧
      s.reserve.accruedReserve.val = 4 ∧ 4 ≤ (ts.map shareOf).sum := by
  obtain ⟨-, -, s₀, -, -, -, hcheck⟩ := exists_run Demo.halfYears_ok
  obtain ⟨hzero, ts, s, run, hbooked, hmargins⟩ := Demo.halfYears_check hcheck
  have hle := (accrued_reserve_le_share hzero run fun x hx => (hmargins x hx).2).2.1
    fun x hx => (hmargins x hx).1
  rw [hbooked] at hle
  exact ⟨s₀, ts, s, hzero, run, hbooked, by exact_mod_cast hle⟩

namespace Demo

/-- The same pool, with a curve from two to fifty percent. -/
def curveMsg : InstantiateMsg :=
  { msg with rateParams := { msg.rateParams with
      minRate := percent 2
      maxRate := percent 50 } }

/-- A hundred units of 18 decimals are lent, and seventy of them borrowed. -/
def largePool : List Call :=
  [Demo.call "lender" [⟨"usd", tokens 100⟩] .lend,
    Demo.call "alice" [⟨"gold", tokens 20⟩] .addCollateral,
    Demo.call "alice" [] (.borrow (tokens 70))]

/-- The next block, five seconds later. -/
def nextBlock : AccrualCall := ⟨(env 5).blockTime, curveMsg.rateParams⟩

theorem nextBlock_later :
    List.IsChain (· ≤ ·) [(env 0).blockTime.seconds, nextBlock.asOfTime.seconds] := by
  decide

/-- The fee of the block exceeds the protocol's share of its interest by eight. -/
def overbookedCheck (s : PoolStorage) : Bool :=
  decide (s.reserve.accruedReserve.val = 0) && decide (s.reserve.liquidityIndex = one) &&
    decide (s.reserve.borrowIndex = one) &&
    decide (s.reserve.lastUpdatedAt = (env 0).blockTime) &&
    match saveAccrual s nextBlock with
    | .ok s' => decide (s'.reserve.accruedReserve.val = 99885844748) &&
        decide (protocolShare s.reserve s'.reserve = 99885844740)
    | .error _ => false

theorem largePool_ok :
    replayCheck (deps 10) (env 0) ⟨"owner", []⟩ curveMsg largePool overbookedCheck = true := by
  decide +kernel

/-- What the check says of the accrual. -/
theorem overbooked_check {s : PoolStorage} (h : overbookedCheck s = true) :
    s.reserve.accruedReserve.val = 0 ∧ s.reserve.liquidityIndex = one ∧
      s.reserve.borrowIndex = one ∧ s.reserve.lastUpdatedAt = (env 0).blockTime ∧
      ∃ s', AccrualStep s nextBlock s' ∧
        s'.reserve.accruedReserve.val = 99885844748 ∧
        protocolShare s.reserve s'.reserve = 99885844740 := by
  simp only [overbookedCheck, Bool.and_eq_true, decide_eq_true_eq] at h
  obtain ⟨⟨⟨⟨hzero, hli⟩, hbi⟩, htime⟩, hstep⟩ := h
  split at hstep
  · rename_i s' hs'
    simp only [Bool.and_eq_true, decide_eq_true_eq] at hstep
    exact ⟨hzero, hli, hbi, htime, s', hs', hstep.1, hstep.2⟩
  · cases hstep

end Demo

/-- With valid rates, indexes at one and an empty counter, one accrual of five seconds books
eight base units more than the protocol's share. -/
theorem accrued_reserve_overbooked :
    ¬ ∀ (p : RateParamsV1) (s₀ s : PoolStorage) (ts : List (Transition PoolStorage AccrualCall)),
      p.validate = .ok () → s₀.reserve.accruedReserve.val = 0 →
      decimalFractional ≤ s₀.reserve.liquidityIndex.atomics →
      decimalFractional ≤ s₀.reserve.borrowIndex.atomics → Run AccrualStep s₀ ts s →
      (∀ x ∈ ts, x.label.params = p) →
      List.IsChain (· ≤ ·) (s₀.reserve.lastUpdatedAt.seconds ::
        ts.map fun x => x.label.asOfTime.seconds) →
      (s.reserve.accruedReserve.val : ℚ) ≤ (ts.map shareOf).sum := by
  intro h
  obtain ⟨-, -, s, -, -, -, hcheck⟩ := exists_run Demo.largePool_ok
  obtain ⟨hzero, hli, hbi, htime, s', hstep, hbooked, hshare⟩ := Demo.overbooked_check hcheck
  have hle := h Demo.curveMsg.rateParams s s' [⟨s, Demo.nextBlock, s'⟩] (by decide) hzero
    (by rw [hli]; exact le_refl _) (by rw [hbi]; exact le_refl _) (.single hstep)
    (by simp [Demo.nextBlock]) (by rw [htime]; exact Demo.nextBlock_later)
  rw [List.map_singleton, List.sum_singleton, shareOf, hshare, hbooked] at hle
  norm_num at hle

end DemocratizedPrime
