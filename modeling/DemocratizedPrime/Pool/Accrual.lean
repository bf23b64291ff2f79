import DemocratizedPrime.Pool.Rates
import Mathlib.Tactic.Linarith

/-!
# What an accrual does

An accrual changes the two indexes, the time stamp and the accrued reserve, and
nothing else (`AccruedTo.frame`).  The indexes and the accrued reserve do not go
down (`AccruedTo.liquidityIndex_le` and the two lemmas after it).  Within the
second of the last accrual nothing happens at all (`AccruedTo.sameSecond`).

The interest of the borrowers is split between the lenders and the protocol.  In
both fee models the two shares together are at most what the borrowers pay
(`lenderRate_le`).
-/

namespace DemocratizedPrime

open Result Decimal256

/-! ## Exact amounts -/

namespace ReserveStateV1

/-- What all lenders are owed, exactly. -/
def claims (r : ReserveStateV1) : ℚ := r.totalScaledLiquidity.val * r.liquidityIndex.toRat

/-- What all borrowers owe, exactly. -/
def debt (r : ReserveStateV1) : ℚ := r.totalScaledBorrow.val * r.borrowIndex.toRat

theorem claims_nonneg (r : ReserveStateV1) : 0 ≤ r.claims :=
  mul_nonneg (Nat.cast_nonneg _) (toRat_nonneg _)

theorem debt_nonneg (r : ReserveStateV1) : 0 ≤ r.debt :=
  mul_nonneg (Nat.cast_nonneg _) (toRat_nonneg _)

theorem claims_eq_toRat {r : ReserveStateV1} {l : Decimal256} (h : r.totalLiquidity = .ok l) :
    l.toRat = r.claims := by
  rw [toRat_eq, totalLiquidity_eq_ok.mp h, claims, toRat_eq]
  push_cast
  ring

theorem debt_eq_toRat {r : ReserveStateV1} {b : Decimal256} (h : r.totalBorrow = .ok b) :
    b.toRat = r.debt := by
  rw [toRat_eq, totalBorrow_eq_ok.mp h, debt, toRat_eq]
  push_cast
  ring

end ReserveStateV1

/-! ## The split of the interest -/

/-- The utilization is the share of the debt in the claims, rounded down; without claims it is
zero. -/
theorem utilization_spec {r : ReserveStateV1} {u : Decimal256} (h : r.utilization = .ok u) :
    r.claims = 0 ∧ u.toRat = 0 ∨
      r.claims ≠ 0 ∧ u.toRat * r.claims ≤ r.debt ∧ r.debt < (u.toRat + ulp) * r.claims := by
  simp only [ReserveStateV1.utilization, bind_eq_ok] at h
  obtain ⟨l, hl, h⟩ := h
  have hclaims := ReserveStateV1.claims_eq_toRat hl
  split at h
  · rename_i hzero
    refine Or.inl ⟨?_, ?_⟩
    · rw [← hclaims, toRat_eq, isZero_iff.mp hzero]
      simp
    · rw [← pure_eq_ok.mp h]
      simp [toRat]
  · rename_i hzero
    rw [bind_eq_ok] at h
    obtain ⟨b, hb, hdiv⟩ := h
    refine Or.inr ⟨?_, ?_⟩
    · rw [← hclaims, toRat_eq]
      exact mul_ne_zero (Nat.cast_ne_zero.mpr (mt isZero_iff.mpr hzero)) ulp_pos.ne'
    · rw [← hclaims, ← ReserveStateV1.debt_eq_toRat hb]
      exact ⟨toRat_checkedDiv_mul_le hdiv, lt_toRat_checkedDiv_mul hdiv⟩

theorem utilization_mul_claims_le {r : ReserveStateV1} {u : Decimal256}
    (h : r.utilization = .ok u) : u.toRat * r.claims ≤ r.debt := by
  rcases utilization_spec h with ⟨-, hzero⟩ | ⟨-, hle, -⟩
  · rw [hzero, zero_mul]
    exact r.debt_nonneg
  · exact hle

theorem debt_le_utilization {r : ReserveStateV1} {u : Decimal256} (h : r.utilization = .ok u)
    (hclaims : r.claims ≠ 0) : r.debt ≤ (u.toRat + ulp) * r.claims := by
  rcases utilization_spec h with ⟨hzero, -⟩ | ⟨-, -, hlt⟩
  · exact absurd hzero hclaims
  · exact hlt.le

/-- The lenders' rate is at most the used share of what the protocol leaves of the
borrowers' rate. -/
theorem lenderRate_le {p : RateParamsV1} {u br lr fr : Decimal256}
    (hl : lenderRateFromUtilization p u br = .ok lr) (hf : protocolFeeRate p br = .ok fr) :
    fr.toRat ≤ br.toRat ∧ lr.toRat ≤ u.toRat * (br.toRat - fr.toRat) := by
  unfold lenderRateFromUtilization at hl
  unfold protocolFeeRate at hf
  have hu := toRat_nonneg u
  have hbr := toRat_nonneg br
  cases hmodel : p.feeModel with
  | reserveFactor =>
    rw [hmodel] at hl hf
    simp only [bind_eq_ok] at hl
    obtain ⟨keep, hkeep, mult, hmult, hlr⟩ := hl
    have hkeep := toRat_checkedSub hkeep
    rw [toRat_one] at hkeep
    have hfr : fr.toRat ≤ br.toRat * (1 - keep.toRat) := by
      have := toRat_checkedMul_le hf
      rwa [show p.reserveFactor.toRat = 1 - keep.toRat by linarith] at this
    have hkeep0 := toRat_nonneg keep
    have hle : lr.toRat ≤ br.toRat * (u.toRat * keep.toRat) :=
      le_trans (toRat_checkedMul_le hlr)
        (mul_le_mul_of_nonneg_left (toRat_checkedMul_le hmult) hbr)
    constructor
    · nlinarith
    · calc lr.toRat ≤ u.toRat * (br.toRat * keep.toRat) := by
            rw [mul_left_comm]
            exact hle
        _ ≤ u.toRat * (br.toRat - fr.toRat) := by
            apply mul_le_mul_of_nonneg_left _ hu
            linarith
  | flatBorrowSpread =>
    rw [hmodel] at hl hf
    simp only [bind_eq_ok] at hl
    obtain ⟨spread, hspread, hlr⟩ := hl
    rw [← pure_eq_ok.mp hf]
    have hspread := toRat_checkedSub hspread
    have hnonneg := toRat_nonneg spread
    constructor
    · linarith
    · rw [← hspread, mul_comm]
      exact toRat_checkedMul_le hlr

/-! ## Growth -/

/-- A factor is at least one. -/
theorem one_le_indexGrowthFactor {rate f : Decimal256} {elapsed year : Nat}
    (h : indexGrowthFactor rate elapsed year = .ok f) : decimalFractional ≤ f.atomics := by
  unfold indexGrowthFactor at h
  split at h
  · rw [← pure_eq_ok.mp h]
    exact le_refl _
  · simp only [bind_eq_ok] at h
    obtain ⟨_, _, g, _, hf⟩ := h
    rw [checkedAdd_eq_ok] at hf
    rw [hf]
    exact Nat.le_add_right _ _

/-- More time, more growth. -/
theorem indexGrowthFactor_mono {rate f f' : Decimal256} {elapsed elapsed' year : Nat}
    (hle : elapsed ≤ elapsed') (h : indexGrowthFactor rate elapsed year = .ok f)
    (h' : indexGrowthFactor rate elapsed' year = .ok f') : f.atomics ≤ f'.atomics := by
  by_cases he : elapsed = 0
  · have hone := one_le_indexGrowthFactor h'
    rw [he, indexGrowthFactor, if_pos rfl] at h
    rw [← pure_eq_ok.mp h]
    exact hone
  · have he' : elapsed' ≠ 0 := by omega
    unfold indexGrowthFactor at h h'
    rw [if_neg he] at h
    rw [if_neg he'] at h'
    simp only [bind_eq_ok, fromRatio_eq_ok, checkedMul_eq_ok, checkedAdd_eq_ok] at h h'
    obtain ⟨tf, ⟨-, htf⟩, g, hg, hf⟩ := h
    obtain ⟨tf', ⟨-, htf'⟩, g', hg', hf'⟩ := h'
    have htime : tf.atomics ≤ tf'.atomics := by
      rw [htf, htf']
      exact Nat.div_le_div_right (Nat.mul_le_mul_right _ hle)
    rw [hf, hf', hg, hg']
    exact Nat.add_le_add_left (Nat.div_le_div_right (Nat.mul_le_mul_left _ htime)) _

/-- An index does not shrink when it grows by a factor of at least one. -/
theorem index_le_of_growth {i f i' : Decimal256} (h : i.checkedMul f = .ok i')
    (hf : decimalFractional ≤ f.atomics) : i.atomics ≤ i'.atomics := by
  rw [checkedMul_eq_ok.mp h, Nat.le_div_iff_mul_le (by decide)]
  exact Nat.mul_le_mul_left _ hf

/-! ## One accrual -/

/-- What an accrual computed on its way. -/
structure Interest (r : ReserveStateV1) (t : Timestamp) (elapsed : Nat) (p : RateParamsV1)
    (r' : ReserveStateV1) : Prop where
  frame : r' = { r with
    liquidityIndex := r'.liquidityIndex
    borrowIndex := r'.borrowIndex
    lastUpdatedAt := t
    accruedReserve := r'.accruedReserve }
  rates : ∃ u br lr lf bf fee,
    r.utilization = .ok u ∧
    lenderRateFromUtilization p u br = .ok lr ∧
    indexGrowthFactor lr elapsed secondsPerYear = .ok lf ∧
    indexGrowthFactor br elapsed secondsPerYear = .ok bf ∧
    r.liquidityIndex.checkedMul lf = .ok r'.liquidityIndex ∧
    r.borrowIndex.checkedMul bf = .ok r'.borrowIndex ∧
    (∃ b, r.totalBorrow = .ok b ∧ protocolFee p b br elapsed = .ok fee) ∧
    r'.accruedReserve = r.accruedReserve.saturatingAdd fee

theorem accrueInterest_spec {r r' : ReserveStateV1} {t : Timestamp} {elapsed : Nat}
    {p : RateParamsV1} (h : accrueInterest r t elapsed p = .ok r') :
    Interest r t elapsed p r' := by
  simp only [accrueInterest, bind_eq_ok, pure_eq_ok] at h
  obtain ⟨b, hb, u, hu, br, -, lr, hlr, lf, hlf, bf, hbf, li, hli, bi, hbi, fee, hfee, rfl⟩ := h
  exact ⟨rfl, u, br, lr, lf, bf, fee, hu, hlr, hlf, hbf, hli, hbi, ⟨b, hb, hfee⟩, rfl⟩

/-- Neither index goes down, nor does the accrued reserve. -/
theorem Interest.mono {r r' : ReserveStateV1} {t : Timestamp} {elapsed : Nat}
    {p : RateParamsV1} (h : Interest r t elapsed p r') :
    r.liquidityIndex.atomics ≤ r'.liquidityIndex.atomics ∧
      r.borrowIndex.atomics ≤ r'.borrowIndex.atomics ∧
      r.accruedReserve.val ≤ r'.accruedReserve.val := by
  obtain ⟨u, br, lr, lf, bf, fee, -, -, hlf, hbf, hli, hbi, -, hacc⟩ := h.rates
  refine ⟨index_le_of_growth hli (one_le_indexGrowthFactor hlf),
    index_le_of_growth hbi (one_le_indexGrowthFactor hbf), ?_⟩
  rw [hacc]
  exact Uint.le_saturatingAdd_val _ _

/-! ## The accrual of a message -/

namespace AccruedTo

variable {s : PoolStorage} {t : Timestamp} {r : ReserveStateV1}

theorem unique {r' : ReserveStateV1} (h : AccruedTo s t r) (h' : AccruedTo s t r') : r = r' :=
  Except.ok.inj (h.symm.trans h')

/-- Within the second of the last accrual nothing changes. -/
theorem sameSecond (h : AccruedTo s t r)
    (he : timeElapsedSeconds s.reserve.lastUpdatedAt t = 0) : r = s.reserve := by
  unfold AccruedTo computeEffectiveReserve at h
  rw [if_pos he] at h
  exact (pure_eq_ok.mp h).symm

/-- Later the interest of the elapsed seconds is charged. -/
theorem charged (h : AccruedTo s t r)
    (he : timeElapsedSeconds s.reserve.lastUpdatedAt t ≠ 0) :
    accrueInterest s.reserve t (timeElapsedSeconds s.reserve.lastUpdatedAt t)
      s.contract.rateParams = .ok r := by
  unfold AccruedTo computeEffectiveReserve at h
  rwa [if_neg he] at h

theorem interest (h : AccruedTo s t r)
    (he : timeElapsedSeconds s.reserve.lastUpdatedAt t ≠ 0) :
    Interest s.reserve t (timeElapsedSeconds s.reserve.lastUpdatedAt t) s.contract.rateParams
      r :=
  accrueInterest_spec (h.charged he)

theorem still (he : timeElapsedSeconds s.reserve.lastUpdatedAt t = 0) :
    AccruedTo s t s.reserve := by
  unfold AccruedTo computeEffectiveReserve
  rw [if_pos he]
  rfl

/-- An accrual reads the reserve and the rate parameters, and nothing else. -/
theorem of_reserve {s' : PoolStorage} (h : AccruedTo s t r) (hreserve : s'.reserve = s.reserve)
    (hparams : s'.contract.rateParams = s.contract.rateParams) : AccruedTo s' t r := by
  unfold AccruedTo computeEffectiveReserve at h ⊢
  rw [hreserve, hparams]
  exact h

/-- An accrual leaves the scaled totals and the deficit alone. -/
theorem frame (h : AccruedTo s t r) : r = { s.reserve with
    liquidityIndex := r.liquidityIndex
    borrowIndex := r.borrowIndex
    lastUpdatedAt := r.lastUpdatedAt
    accruedReserve := r.accruedReserve } := by
  by_cases he : timeElapsedSeconds s.reserve.lastUpdatedAt t = 0
  · rw [h.sameSecond he]
  · have hi := (h.interest he).frame
    rw [hi]

theorem totalScaledLiquidity (h : AccruedTo s t r) :
    r.totalScaledLiquidity = s.reserve.totalScaledLiquidity := by rw [h.frame]

theorem totalScaledBorrow (h : AccruedTo s t r) :
    r.totalScaledBorrow = s.reserve.totalScaledBorrow := by rw [h.frame]

theorem deficitUnderlying (h : AccruedTo s t r) :
    r.deficitUnderlying = s.reserve.deficitUnderlying := by rw [h.frame]

theorem mono (h : AccruedTo s t r) :
    s.reserve.liquidityIndex.atomics ≤ r.liquidityIndex.atomics ∧
      s.reserve.borrowIndex.atomics ≤ r.borrowIndex.atomics ∧
      s.reserve.accruedReserve.val ≤ r.accruedReserve.val := by
  by_cases he : timeElapsedSeconds s.reserve.lastUpdatedAt t = 0
  · rw [h.sameSecond he]
    exact ⟨le_refl _, le_refl _, le_refl _⟩
  · exact (h.interest he).mono

theorem liquidityIndex_le (h : AccruedTo s t r) :
    s.reserve.liquidityIndex.atomics ≤ r.liquidityIndex.atomics := h.mono.1

theorem borrowIndex_le (h : AccruedTo s t r) :
    s.reserve.borrowIndex.atomics ≤ r.borrowIndex.atomics := h.mono.2.1

/-- A later accrual of the same reserve leaves the higher borrow index. -/
theorem borrowIndex_mono {t' : Timestamp} {r' : ReserveStateV1} (h : AccruedTo s t r)
    (h' : AccruedTo s t' r') (hle : t.seconds ≤ t'.seconds) :
    r.borrowIndex.atomics ≤ r'.borrowIndex.atomics := by
  by_cases he : timeElapsedSeconds s.reserve.lastUpdatedAt t = 0
  · rw [h.sameSecond he]
    exact h'.borrowIndex_le
  · have helapsed : timeElapsedSeconds s.reserve.lastUpdatedAt t ≤
        timeElapsedSeconds s.reserve.lastUpdatedAt t' := Nat.sub_le_sub_right hle _
    have he' : timeElapsedSeconds s.reserve.lastUpdatedAt t' ≠ 0 := by omega
    have hr := h.charged he
    have hr' := h'.charged he'
    simp only [accrueInterest, bind_eq_ok, checkedMul_eq_ok, pure_eq_ok] at hr hr'
    obtain ⟨_, -, u, hu, br, hbr, _, -, _, -, bf, hbf, _, -, bi, hbi, _, -, rfl⟩ := hr
    obtain ⟨_, -, u', hu', br', hbr', _, -, _, -, bf', hbf', _, -, bi', hbi', _, -, rfl⟩ := hr'
    obtain rfl : u = u' := Except.ok.inj (hu.symm.trans hu')
    obtain rfl : br = br' := Except.ok.inj (hbr.symm.trans hbr')
    show bi.atomics ≤ bi'.atomics
    rw [hbi, hbi']
    exact Nat.div_le_div_right (Nat.mul_le_mul_left _ (indexGrowthFactor_mono helapsed hbf hbf'))

/-- And the higher liquidity index. -/
theorem liquidityIndex_mono {t' : Timestamp} {r' : ReserveStateV1} (h : AccruedTo s t r)
    (h' : AccruedTo s t' r') (hle : t.seconds ≤ t'.seconds) :
    r.liquidityIndex.atomics ≤ r'.liquidityIndex.atomics := by
  by_cases he : timeElapsedSeconds s.reserve.lastUpdatedAt t = 0
  · rw [h.sameSecond he]
    exact h'.liquidityIndex_le
  · have helapsed : timeElapsedSeconds s.reserve.lastUpdatedAt t ≤
        timeElapsedSeconds s.reserve.lastUpdatedAt t' := Nat.sub_le_sub_right hle _
    have he' : timeElapsedSeconds s.reserve.lastUpdatedAt t' ≠ 0 := by omega
    have hr := h.charged he
    have hr' := h'.charged he'
    simp only [accrueInterest, bind_eq_ok, checkedMul_eq_ok, pure_eq_ok] at hr hr'
    obtain ⟨_, -, u, hu, br, hbr, lr, hlr, lf, hlf, _, -, li, hli, _, -, _, -, rfl⟩ := hr
    obtain ⟨_, -, u', hu', br', hbr', lr', hlr', lf', hlf', _, -, li', hli', _, -, _, -, rfl⟩ := hr'
    obtain rfl : u = u' := Except.ok.inj (hu.symm.trans hu')
    obtain rfl : br = br' := Except.ok.inj (hbr.symm.trans hbr')
    obtain rfl : lr = lr' := Except.ok.inj (hlr.symm.trans hlr')
    show li.atomics ≤ li'.atomics
    rw [hli, hli']
    exact Nat.div_le_div_right (Nat.mul_le_mul_left _ (indexGrowthFactor_mono helapsed hlf hlf'))

/-- After an accrual no whole second is left to charge. -/
theorem elapsed_eq_zero (h : AccruedTo s t r) : timeElapsedSeconds r.lastUpdatedAt t = 0 := by
  by_cases he : timeElapsedSeconds s.reserve.lastUpdatedAt t = 0
  · rw [h.sameSecond he, he]
  · rw [(h.interest he).frame]
    exact Nat.sub_self _

end AccruedTo

end DemocratizedPrime
