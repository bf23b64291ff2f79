import DemocratizedPrime.Pool.Curve

/-!
# When a response can report its rates

Every message that touches the reserve ends with `attachRates`, which computes the
utilization and both rates of the reserve that was saved.  A message can fail there
although everything before succeeded.

* `isOk_borrowerRate_iff`: a rate is computed exactly when the ramp above the kink fits.
* `RatesComputed.mono`: what can be reported can be reported at a lower utilization too.
-/

namespace DemocratizedPrime

open Result Rounding

section

variable {p : RateParamsV1} {u v r r' : Decimal256}

/-! ## The borrower's rate -/

/-- The lower ramp ends at `targetRate`, so it always fits. -/
theorem isOk_rateBelowKink (hp : p.Valid) (hu : u ≤ p.kinkUtilization) :
    IsOk (rateBelowKink p u) := by
  have hkink : p.kinkUtilization.isZero = false := by
    have := hp.kink_pos
    simp only [Decimal256.isZero, beq_eq_false_iff_ne]
    omega
  have htarget : p.targetRate ≤ Decimal256.one := Nat.le_trans hp.target_le_max hp.max_le_one
  unfold rateBelowKink
  rw [hkink, if_neg Bool.false_ne_true]
  refine IsOk.bind_any (Decimal256.isOk_checkedSub_iff.mpr hp.min_le_target) fun range hrange => ?_
  have hrange := Decimal256.checkedSub_eq_ok.mp hrange
  have hone : range.atomics ≤ decimalFractional := by
    have hle := Decimal256.le_def.mp htarget
    rw [Decimal256.atomics_one] at hle
    omega
  have hslope : range.atomics * decimalFractional / p.kinkUtilization.atomics < 2 ^ 256 := by
    calc range.atomics * decimalFractional / p.kinkUtilization.atomics
        ≤ range.atomics * decimalFractional := Nat.div_le_self _ _
      _ ≤ decimalFractional * decimalFractional := Nat.mul_le_mul_right _ hone
      _ < 2 ^ 256 := by decide
  refine IsOk.bind_any (Decimal256.isOk_checkedDiv_iff.mpr
    ⟨Nat.ne_of_gt hp.kink_pos, hslope⟩) fun slope hslope => ?_
  have hslope := (Decimal256.checkedDiv_eq_ok.mp hslope).2
  have hgrowth : slope.atomics * u.atomics / decimalFractional ≤ range.atomics := by
    rw [hslope]
    exact ramp_le decimalFractional range.atomics hu
  refine IsOk.bind_any (Decimal256.isOk_checkedMul_iff.mpr
    (Nat.lt_of_le_of_lt hgrowth range.isLt)) fun growth hgrowth' => ?_
  have hgrowth' := Decimal256.checkedMul_eq_ok.mp hgrowth'
  have hfits := p.targetRate.isLt
  rw [Decimal256.isOk_checkedAdd_iff]
  omega

/-- Above the kink the rate is computed from the ramp before it is capped. -/
theorem isOk_rateAboveKink_iff (hp : p.Valid) (hu : p.kinkUtilization ≤ u) :
    IsOk (rateAboveKink p u) ↔ p.upperRamp u.atomics < 2 ^ 256 := by
  constructor
  · rintro ⟨r, h⟩
    obtain ⟨rate, hrate, -⟩ := rateAboveKink_ramp hp h
    rw [← hrate]
    exact rate.isLt
  · intro hfits
    unfold rateAboveKink
    refine IsOk.bind_any (Decimal256.isOk_checkedSub_iff.mpr (Nat.le_of_lt hp.kink_lt_one))
      fun above habove => ?_
    have habove := Decimal256.checkedSub_eq_ok.mp habove
    rw [Decimal256.atomics_one] at habove
    have hrun : above.atomics = decimalFractional - p.kinkUtilization.atomics := by omega
    split
    · exact isOk_pure
    · rename_i hpos
      refine IsOk.bind_any (Decimal256.isOk_checkedSub_iff.mpr hu) fun excess hexcess => ?_
      have hexcess := Decimal256.checkedSub_eq_ok.mp hexcess
      refine IsOk.bind_any (Decimal256.isOk_checkedSub_iff.mpr hp.target_le_max)
        fun range hrange => ?_
      have hrange := Decimal256.checkedSub_eq_ok.mp hrange
      have hone : range.atomics ≤ decimalFractional := by
        have hle := Decimal256.le_def.mp hp.max_le_one
        rw [Decimal256.atomics_one] at hle
        omega
      have hslope : range.atomics * decimalFractional / above.atomics < 2 ^ 256 := by
        calc range.atomics * decimalFractional / above.atomics
            ≤ range.atomics * decimalFractional := Nat.div_le_self _ _
          _ ≤ decimalFractional * decimalFractional := Nat.mul_le_mul_right _ hone
          _ < 2 ^ 256 := by decide
      have habove' : above.atomics ≠ 0 := fun h => hpos (Decimal256.isZero_iff.mpr h)
      refine IsOk.bind_any (Decimal256.isOk_checkedDiv_iff.mpr ⟨habove', hslope⟩)
        fun slope hslope => ?_
      have hslope := (Decimal256.checkedDiv_eq_ok.mp hslope).2
      have hrise : range.atomics = p.maxRate.atomics - p.targetRate.atomics := by omega
      have hdistance : excess.atomics = u.atomics - p.kinkUtilization.atomics := by omega
      have hramp : p.targetRate.atomics + slope.atomics * excess.atomics / decimalFractional =
          p.upperRamp u.atomics := by
        rw [hslope, hrise, hrun, hdistance, RateParamsV1.upperRamp, ramp]
      refine IsOk.bind_any (Decimal256.isOk_checkedMul_iff.mpr (by omega)) fun growth hgrowth => ?_
      have hgrowth := Decimal256.checkedMul_eq_ok.mp hgrowth
      refine IsOk.bind_any (Decimal256.isOk_checkedAdd_iff.mpr (by omega)) fun rate _ => ?_
      exact isOk_pure

theorem isOk_borrowerRate_iff (hp : p.Valid) :
    IsOk (borrowerRateFromUtilization p u) ↔
      (p.kinkUtilization < u → p.upperRamp u.atomics < 2 ^ 256) := by
  unfold borrowerRateFromUtilization
  split
  · rename_i hu
    constructor
    · intro _ hlt
      exact absurd hlt (Nat.not_lt.mpr hu)
    · intro _
      exact isOk_rateBelowKink hp hu
  · rename_i hu
    have hlt : p.kinkUtilization < u := Nat.not_le.mp hu
    rw [isOk_rateAboveKink_iff hp (Nat.le_of_lt hlt)]
    exact ⟨fun h _ => h, fun h => h hlt⟩

theorem isOk_borrowerRate_mono (hp : p.Valid) (huv : u ≤ v)
    (h : IsOk (borrowerRateFromUtilization p v)) : IsOk (borrowerRateFromUtilization p u) := by
  rw [isOk_borrowerRate_iff hp] at h ⊢
  intro hu
  have hfits := h (Nat.lt_of_lt_of_le hu huv)
  have hramp := ramp_mono decimalFractional (p.maxRate.atomics - p.targetRate.atomics)
    (decimalFractional - p.kinkUtilization.atomics)
    (Nat.sub_le_sub_right huv p.kinkUtilization.atomics)
  unfold RateParamsV1.upperRamp at hfits ⊢
  exact Nat.lt_of_le_of_lt (Nat.add_le_add_left hramp _) hfits

/-! ## The lenders' rate -/

theorem isOk_lenderRate_mono (hp : p.Valid) (huv : u ≤ v) (hmin : p.minRate ≤ r) (hr : r ≤ r')
    (h : IsOk (lenderRateFromUtilization p v r')) : IsOk (lenderRateFromUtilization p u r) := by
  unfold lenderRateFromUtilization at h ⊢
  cases hmodel : p.feeModel with
  | reserveFactor =>
    simp only [hmodel] at h
    obtain ⟨l, h⟩ := h
    simp only [bind_eq_ok] at h
    obtain ⟨keep, hkeep, mult', hmult', hl⟩ := h
    refine IsOk.bind hkeep (IsOk.bind_any ?_ fun mult hmult => ?_)
    · exact Decimal256.isOk_checkedMul_mono huv (Nat.le_refl _) ⟨_, hmult'⟩
    · have hle : mult ≤ mult' := by
        rw [Decimal256.le_def, Decimal256.checkedMul_eq_ok.mp hmult,
          Decimal256.checkedMul_eq_ok.mp hmult']
        exact Nat.div_le_div_right (Nat.mul_le_mul_right _ huv)
      exact Decimal256.isOk_checkedMul_mono hr hle ⟨_, hl⟩
  | flatBorrowSpread =>
    simp only [hmodel] at h
    obtain ⟨l, h⟩ := h
    simp only [bind_eq_ok] at h
    obtain ⟨spread', hspread', hl⟩ := h
    have hfee : p.flatFeeApr ≤ r := Nat.le_trans (hp.flatFee_le_min hmodel) hmin
    refine IsOk.bind_any (Decimal256.isOk_checkedSub_iff.mpr hfee) fun spread hspread => ?_
    have hspread := Decimal256.checkedSub_eq_ok.mp hspread
    have hspread' := Decimal256.checkedSub_eq_ok.mp hspread'
    have hrates := Decimal256.le_def.mp hr
    have hle : spread ≤ spread' := by
      rw [Decimal256.le_def]
      omega
    exact Decimal256.isOk_checkedMul_mono hle huv ⟨_, hl⟩

end

/-! ## The report -/

/-- The utilization and the two rates of a reserve are computed. -/
def RatesComputed (r : ReserveStateV1) (p : RateParamsV1) : Prop :=
  ∃ u br lr, r.utilization = .ok u ∧ borrowerRateFromUtilization p u = .ok br ∧
    lenderRateFromUtilization p u br = .ok lr

/-- Nothing else can stop the report, whatever it is attached to. -/
theorem isOk_attachRates_iff {res : Response} {r : ReserveStateV1} {p : RateParamsV1} :
    IsOk (res.attachRates r p) ↔ RatesComputed r p := by
  simp only [IsOk, Response.attachRates, RatesComputed, bind_eq_ok, pure_eq_ok]
  constructor
  · rintro ⟨_, u, hu, br, hbr, lr, hlr, -⟩
    exact ⟨u, br, lr, hu, hbr, hlr⟩
  · rintro ⟨u, br, lr, hu, hbr, hlr⟩
    exact ⟨_, u, hu, br, hbr, lr, hlr, rfl⟩

/-- The same debt against more liquidity is a lower utilization, and it is computed when the
higher one is. -/
theorem utilization_of_le {r r' : ReserveStateV1} {u' : Decimal256}
    (hborrow : r.totalScaledBorrow = r'.totalScaledBorrow)
    (hindex : r.borrowIndex = r'.borrowIndex)
    (hfits : r.totalScaledLiquidity.val * r.liquidityIndex.atomics < 2 ^ 256)
    (hpos : 0 < r'.totalScaledLiquidity.val * r'.liquidityIndex.atomics)
    (hle : r'.totalScaledLiquidity.val * r'.liquidityIndex.atomics ≤
      r.totalScaledLiquidity.val * r.liquidityIndex.atomics)
    (h : r'.utilization = .ok u') : ∃ u, r.utilization = .ok u ∧ u ≤ u' := by
  simp only [ReserveStateV1.utilization, bind_eq_ok] at h
  obtain ⟨l', hl', h⟩ := h
  have hl'val := totalLiquidity_eq_ok.mp hl'
  have hzero : ¬ l'.isZero = true := by
    rw [Decimal256.isZero_iff]
    omega
  rw [if_neg hzero, bind_eq_ok] at h
  obtain ⟨b, hb, hdiv⟩ := h
  obtain ⟨-, hu'⟩ := Decimal256.checkedDiv_eq_ok.mp hdiv
  have hl : r.totalLiquidity = .ok ⟨_, hfits⟩ := totalLiquidity_eq_ok.mpr rfl
  have hnonzero : ¬ (⟨_, hfits⟩ : Decimal256).isZero = true := by
    rw [Decimal256.isZero_iff]
    exact Nat.ne_of_gt (Nat.lt_of_lt_of_le hpos hle)
  have hb' : r.totalBorrow = .ok b := by
    rw [totalBorrow_eq_ok] at hb ⊢
    rw [hb, hborrow, hindex]
  have hquot : b.atomics * decimalFractional /
      (r.totalScaledLiquidity.val * r.liquidityIndex.atomics) ≤ u'.atomics := by
    rw [hu', hl'val]
    exact Nat.div_le_div_left hle hpos
  refine ⟨⟨_, Nat.lt_of_le_of_lt hquot u'.isLt⟩, ?_, hquot⟩
  unfold ReserveStateV1.utilization
  rw [hl, ok_bind, if_neg hnonzero, hb', ok_bind, Decimal256.checkedDiv_eq_ok]
  exact ⟨Nat.ne_of_gt (Nat.lt_of_lt_of_le hpos hle), rfl⟩

/-- The rates of the same debt against more liquidity are computed too. -/
theorem RatesComputed.mono {r r' : ReserveStateV1} {p : RateParamsV1} (hp : p.Valid)
    (hborrow : r.totalScaledBorrow = r'.totalScaledBorrow)
    (hindex : r.borrowIndex = r'.borrowIndex)
    (hfits : r.totalScaledLiquidity.val * r.liquidityIndex.atomics < 2 ^ 256)
    (hpos : 0 < r'.totalScaledLiquidity.val * r'.liquidityIndex.atomics)
    (hle : r'.totalScaledLiquidity.val * r'.liquidityIndex.atomics ≤
      r.totalScaledLiquidity.val * r.liquidityIndex.atomics)
    (h : RatesComputed r' p) : RatesComputed r p := by
  obtain ⟨v, br', lr', hv, hbr', hlr'⟩ := h
  obtain ⟨u, hu, huv⟩ := utilization_of_le hborrow hindex hfits hpos hle hv
  obtain ⟨br, hbr⟩ := isOk_borrowerRate_mono hp huv ⟨_, hbr'⟩
  have hmin : p.minRate ≤ br := by
    rw [Decimal256.le_def, borrowerRate_eq hp hbr]
    exact RateParamsV1.minRate_le_curve hp _
  obtain ⟨lr, hlr⟩ := isOk_lenderRate_mono hp huv hmin (borrowerRate_mono hp huv hbr hbr')
    ⟨_, hlr'⟩
  exact ⟨u, br, lr, hu, hbr, hlr⟩

end DemocratizedPrime
