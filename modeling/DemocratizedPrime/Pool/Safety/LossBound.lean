import DemocratizedPrime.Pool.Invariants.Solvency
import Mathlib.Algebra.BigOperators.Ring.Finset

/-!
# What a liquidation can cost the lenders

A liquidator pays `r`, the smaller of what is sent and the price of all the debt, and
takes collateral worth `Z`.  Six guards keep the trade fair, and `LossBounded` collects
what they guarantee together: `Z` is at most the bonus times the value of `r`; it is at
least the value of `r`, unless there is nothing to take; and what remains is healthy, or
paid off, or written off.

A write-off leaves a loss with the lenders, so it is the case to bound.  It happens only
when the remaining collateral has no value after its haircut, and the priced collateral
did not cover the debt.  Whatever priced collateral was there, the liquidator has paid for
all of it but dust: a holding whose haircutted value truncates to zero is worth less than
`10 ^ -18 / haircut`, and cutting a holding in two loses one more atomic
(`pricedMarketValue_le`).
-/

namespace DemocratizedPrime

open Result Decimal256 TreeMap

/-! ## Dust -/

/-- An asset on the list has a positive haircut, and any other counts in full. -/
theorem haircutPercentage_pos {contract : ContractStateV1} (h : SupportedListValid contract)
    (a : String) : 0 < (haircutPercentage contract.supportedCollateralAssets a).atomics := by
  unfold haircutPercentage
  cases hfind : contract.supportedCollateralAssets.find? (·.assetId == a) with
  | none => exact Nat.zero_lt_succ _
  | some asset =>
    have hvalid := h.valid asset (List.mem_of_find?_eq_some hfind)
    rw [CollateralAssetV1.validate, bind_eq_ok] at hvalid
    obtain ⟨-, -, hvalid⟩ := hvalid
    cases hhaircut : asset.haircut with
    | none =>
      rw [Option.bind_some, hhaircut]
      exact Nat.zero_lt_succ _
    | some haircut =>
      rw [hhaircut] at hvalid
      simp only [bind_eq_ok, ensure_eq_ok, exists_const] at hvalid
      have hne : haircut.atomics ≠ 0 := by simpa [isZero] using hvalid.1
      rw [Option.bind_some, hhaircut]
      exact Nat.pos_of_ne_zero hne

/-- USD, from atomics. -/
def usd (atomics : Nat) : ℚ := atomics * ulp

theorem usd_le {m n : Nat} (h : m ≤ n) : usd m ≤ usd n :=
  mul_le_mul_of_nonneg_right (by exact_mod_cast h) ulp_pos.le

/-- A bound by a share that is rounded down. -/
theorem usd_le_mul {m n : Nat} {rate : Decimal256}
    (h : m ≤ n * rate.atomics / decimalFractional) : usd m ≤ rate.toRat * usd n := by
  have hmul : m * decimalFractional ≤ n * rate.atomics :=
    (Nat.le_div_iff_mul_le (by decide)).mp h
  have hcast : (m : ℚ) * decimalFractional ≤ n * rate.atomics := by exact_mod_cast hmul
  calc usd m = m * decimalFractional * (ulp * ulp) := by
        unfold usd
        linear_combination -(m * ulp) * ulp_mul_decimalFractional
    _ ≤ n * rate.atomics * (ulp * ulp) :=
        mul_le_mul_of_nonneg_right hcast (mul_nonneg ulp_pos.le ulp_pos.le)
    _ = rate.toRat * usd n := by
        rw [toRat_eq, usd]
        ring

/-- What a holding may be worth whose haircutted value is zero, and one atomic more. -/
def dustBound (contract : ContractStateV1) (a : String) : ℚ :=
  ulp / (haircutPercentage contract.supportedCollateralAssets a).toRat + ulp

theorem dustBound_nonneg (contract : ContractStateV1) (a : String) :
    0 ≤ dustBound contract a :=
  add_nonneg (div_nonneg ulp_pos.le (toRat_nonneg _)) ulp_pos.le

/-- The dust of one asset: nothing, unless some of it is left and has a price. -/
def assetDust (contract : ContractStateV1) (q : LiquidationPrices) (a : String) (amount : Nat) :
    ℚ :=
  if amount = 0 ∨ q.unpriceable.contains a = true then 0 else dustBound contract a

theorem assetDust_nonneg (contract : ContractStateV1) (q : LiquidationPrices) (a : String)
    (amount : Nat) : 0 ≤ assetDust contract q a amount := by
  unfold assetDust
  split
  · exact le_refl _
  · exact dustBound_nonneg _ _

/-- The dust of the priced assets that a write-off sweeps. -/
def sweptDust (contract : ContractStateV1) (q : LiquidationPrices) (swept : Amounts) : ℚ :=
  (swept.toList.map fun entry => assetDust contract q entry.1 entry.2.val).sum

/-- A holding is worth little when its haircutted value truncates to zero. -/
theorem usd_marketValue_le {contract : ContractStateV1} {prices : PriceMap} {a : String}
    {amount : Nat} (hvalid : SupportedListValid contract)
    (hzero : assetValue prices contract.supportedCollateralAssets a amount = 0) :
    usd (marketValue prices a amount) ≤
      ulp / (haircutPercentage contract.supportedCollateralAssets a).toRat := by
  have hpos := haircutPercentage_pos hvalid a
  have hrat : 0 < (haircutPercentage contract.supportedCollateralAssets a).toRat := by
    rw [toRat_eq]
    exact mul_pos (by exact_mod_cast hpos) ulp_pos
  have hsmall : marketValue prices a amount *
      (haircutPercentage contract.supportedCollateralAssets a).atomics < decimalFractional := by
    unfold assetValue at hzero
    unfold marketValue
    cases hp : prices[a]? with
    | none => simp
    | some p =>
      rw [hp] at hzero
      exact (Nat.div_eq_zero_iff_lt (by decide)).mp hzero
  have hcast : (marketValue prices a amount : ℚ) *
      (haircutPercentage contract.supportedCollateralAssets a).atomics ≤ decimalFractional := by
    exact_mod_cast hsmall.le
  rw [le_div_iff₀ hrat, usd, toRat_eq]
  calc (marketValue prices a amount : ℚ) * ulp *
        ((haircutPercentage contract.supportedCollateralAssets a).atomics * ulp)
      = (marketValue prices a amount *
          (haircutPercentage contract.supportedCollateralAssets a).atomics) * (ulp * ulp) := by ring
    _ ≤ decimalFractional * (ulp * ulp) :=
        mul_le_mul_of_nonneg_right hcast (mul_nonneg ulp_pos.le ulp_pos.le)
    _ = ulp := by
        linear_combination ulp * ulp_mul_decimalFractional

/-- Two parts of a holding are worth as much as the whole, but for one atomic. -/
theorem marketValue_add_le (prices : PriceMap) (a : String) (m n : Nat) :
    marketValue prices a (m + n) ≤ marketValue prices a m + marketValue prices a n + 1 := by
  unfold marketValue
  cases prices[a]? with
  | none => exact Nat.zero_le _
  | some p => exact p.valueAtomics_add_lt m n

/-- One asset of a write-off: its market value before is what is seized of it and dust. -/
theorem usd_held_le {contract : ContractStateV1} {q : LiquidationPrices} {a : String}
    {seized rest : Nat} (hvalid : SupportedListValid contract)
    (hzero : assetValue q.prices contract.supportedCollateralAssets a rest = 0) :
    usd (if q.unpriceable.contains a = true then 0 else marketValue q.prices a (rest + seized)) ≤
      usd (marketValue q.prices a seized) + assetDust contract q a rest := by
  have hdust := assetDust_nonneg contract q a rest
  have hseized : 0 ≤ usd (marketValue q.prices a seized) :=
    mul_nonneg (Nat.cast_nonneg _) ulp_pos.le
  by_cases hu : q.unpriceable.contains a = true
  · rw [if_pos hu]
    have hnone : usd 0 = 0 := by simp [usd]
    linarith
  · rw [if_neg hu]
    by_cases hrest : rest = 0
    · rw [hrest, Nat.zero_add]
      rw [hrest] at hdust
      linarith
    · have hsmall := usd_marketValue_le hvalid hzero
      have hsplit := usd_le (marketValue_add_le q.prices a rest seized)
      have hsum : usd (marketValue q.prices a rest + marketValue q.prices a seized + 1) =
          usd (marketValue q.prices a rest) + usd (marketValue q.prices a seized) + ulp := by
        unfold usd
        push_cast
        ring
      rw [assetDust, if_neg fun hc => hc.elim hrest hu, dustBound]
      linarith

/-! ## The collateral of a write-off -/

section WriteOff

variable {contract : ContractStateV1} {info : MessageInfo} {ownership : Ownership}
  {t : LiquidationTarget} {seize : Amounts} {p : LiquidationPlan}

/-- What a seizure leaves of each asset. -/
theorem LiquidationPlan.Valid.held_eq (plan : p.Valid ownership contract info t seize)
    (a : String) : (amountOf t.collateral a).val =
      (amountOf p.postCollateral a).val + (amountOf seize a).val := by
  have htaken := plan.taken.amounts a
  rw [coinsOf_toList, normalizeSeizeMap_amountOf] at htaken
  omega

/-- In a write-off nothing that is left has any value after its haircut. -/
theorem LiquidationPlan.Valid.assetValue_eq_zero (plan : p.Valid ownership contract info t seize)
    (hbad : p.badDebt = true) (a : String) :
    assetValue t.quoted.prices contract.supportedCollateralAssets a
      (amountOf p.postCollateral a).val = 0 := by
  have hzero := (plan.badDebt_iff.mp hbad).2
  rw [collateralValue, sum_toList_eq_sum_assets (fun a => assetValue_zero _ _ a) p.postCollateral
    (fun _ => mem_assetSet), Finset.sum_eq_zero_iff] at hzero
  by_cases hheld : (amountOf p.postCollateral a).val = 0
  · rw [hheld, assetValue_zero]
  · exact hzero a (mem_assetSet hheld)

/-- Before a write-off the priced collateral is worth what is seized, and dust. -/
theorem pricedMarketValue_le (plan : p.Valid ownership contract info t seize)
    (hvalid : SupportedListValid contract) (hbad : p.badDebt = true) :
    usd (pricedMarketValue t.quoted t.collateral) ≤
      usd (totalMarketValue t.quoted.prices seize) +
        sweptDust contract t.quoted p.postCollateral := by
  have hcover {m : Amounts} (hle : ∀ a, (amountOf m a).val ≤ (amountOf t.collateral a).val)
      (a : String) (ha : (amountOf m a).val ≠ 0) : a ∈ assetSet t.collateral := by
    have := hle a
    exact mem_assetSet (by omega)
  have hpriced : pricedMarketValue t.quoted t.collateral = ∑ a ∈ assetSet t.collateral,
      if t.quoted.unpriceable.contains a = true then 0
      else marketValue t.quoted.prices a (amountOf t.collateral a).val :=
    sum_toList_eq_sum_assets
      (g := fun a n => if t.quoted.unpriceable.contains a = true then 0
        else marketValue t.quoted.prices a n) (fun a => by simp) t.collateral
      fun _ => mem_assetSet
  have hseized : totalMarketValue t.quoted.prices seize = ∑ a ∈ assetSet t.collateral,
      marketValue t.quoted.prices a (amountOf seize a).val :=
    sum_toList_eq_sum_assets (fun a => marketValue_zero _ a) seize
      (hcover fun a => by have := plan.held_eq a; omega)
  have hswept : sweptDust contract t.quoted p.postCollateral = ∑ a ∈ assetSet t.collateral,
      assetDust contract t.quoted a (amountOf p.postCollateral a).val :=
    sum_toList_eq_sum_assets (fun a => by simp [assetDust]) p.postCollateral
      (hcover fun a => by have := plan.held_eq a; omega)
  have hsum (f : String → Nat) : usd (∑ a ∈ assetSet t.collateral, f a) =
      ∑ a ∈ assetSet t.collateral, usd (f a) := by
    unfold usd
    rw [Nat.cast_sum, Finset.sum_mul]
  rw [hpriced, hseized, hswept, hsum, hsum, ← Finset.sum_add_distrib]
  refine Finset.sum_le_sum fun a _ => ?_
  rw [plan.held_eq a]
  exact usd_held_le hvalid (plan.assetValue_eq_zero hbad a)

end WriteOff

/-! ## The bound -/

/-- A loss reaches the lenders: at once as a cut of the liquidity index, or later through
the deficit. -/
def BooksLoss (contract : ContractStateV1) (r r' : ReserveStateV1) (loss : Uint128) : Prop :=
  match contract.badDebtLossAllocation with
  | .immediateLiquidityIndexHaircut => applyProRataLiquidityIndexHaircut r loss = .ok r'
  | .deferredToDeficit =>
    r'.deficitUnderlying.val = r.deficitUnderlying.val + loss.val ∧
      r' = { r with deficitUnderlying := r'.deficitUnderlying }

/-- What a liquidation of `t` by the plan `p` guarantees.  `price` is the price of the
lending denomination, `V r` is `price.valueAtomics r`, and `Z` is the market value of
`seize`. -/
structure LossBounded (s : PoolStorage) (info : MessageInfo) (seize : Amounts) (s' : PoolStorage)
    (res : Response) (t : LiquidationTarget) (p : LiquidationPlan)
    (price : AssetPriceResponseV1) : Prop where
  funds : info.funds = [⟨s.contract.lendingDenom.name, p.sent⟩]
  repay : p.actualRepay.val = Min.min p.sent.val
    ((t.scaledDebt.val * t.reserve.borrowIndex.atomics + (decimalFractional - 1)) /
      decimalFractional)
  refund : coinsOf s.contract.lendingDenom.name res.sentCoins + p.actualRepay.val = p.sent.val
  residual : p.newScaledDebt.val + p.scaledRepay.val = t.scaledDebt.val
  ceiling : usd (totalMarketValue t.quoted.prices seize) ≤
    s.contract.liquidationBonusRate.toRat * usd (price.valueAtomics p.actualRepay.val)
  floor : price.valueAtomics p.actualRepay.val ≤ totalMarketValue t.quoted.prices seize ∨
    p.badDebt = true ∨
    (p.newScaledDebt.val = 0 ∧ totalMarketValue t.quoted.prices seize = 0)
  writeOff : p.badDebt = true ↔ 0 < p.newScaledDebt.val ∧
    collateralValue t.quoted.prices s.contract.supportedCollateralAssets p.postCollateral = 0
  insolvent : p.badDebt = true → pricedMarketValue t.quoted t.collateral <
    price.valueAtomics ((t.scaledDebt.val * t.reserve.borrowIndex.atomics +
      (decimalFractional - 1)) / decimalFractional)
  paidFor : p.badDebt = true → usd (pricedMarketValue t.quoted t.collateral) -
      sweptDust s.contract t.quoted p.postCollateral ≤
    s.contract.liquidationBonusRate.toRat * usd (price.valueAtomics p.actualRepay.val)
  loss : p.badDebt = true → ∃ loss : Uint128,
    loss.val = (p.newScaledDebt.val * t.reserve.borrowIndex.atomics + (decimalFractional - 1)) /
      decimalFractional ∧
    BooksLoss s.contract { t.reserve with totalScaledBorrow := s'.reserve.totalScaledBorrow }
      s'.reserve loss
  noLoss : p.badDebt = false →
    s'.reserve = { t.reserve with totalScaledBorrow := s'.reserve.totalScaledBorrow }
  after : ((s'.getScaledBorrow t.borrower).val = 0 ∧
      (p.badDebt = true → s'.getBorrowerCollateral t.borrower = ∅)) ∨
    ∃ debt position,
      scaledToUnderlyingBorrow (s'.getScaledBorrow t.borrower) s'.reserve.borrowIndex = .ok debt ∧
      getBorrowerHealth s'.contract s'.contract.supportedCollateralAssets t.quoted.prices
        (s'.getBorrowerCollateral t.borrower) debt = .ok position ∧ position.health = .healthy

/-- The check of what is left, read off a successful plan. -/
theorem checkPostHealth_ok {contract : ContractStateV1} {reserve : ReserveStateV1}
    {prices : PriceMap} {collateral : Amounts} {debt : Uint128} {u : Unit}
    (hdebt : 0 < debt.val)
    (h : checkPostHealth contract reserve prices collateral debt false = .ok u) :
    ∃ underlying position, scaledToUnderlyingBorrow debt reserve.borrowIndex = .ok underlying ∧
      getBorrowerHealth contract contract.supportedCollateralAssets prices collateral
        underlying = .ok position ∧ position.health = .healthy := by
  rw [checkPostHealth, if_pos ⟨hdebt, rfl⟩] at h
  simp only [bind_eq_ok] at h
  obtain ⟨underlying, hunderlying, position, hposition, h⟩ := h
  refine ⟨underlying, position, hunderlying, hposition, ?_⟩
  by_contra hne
  rw [if_neg hne] at h
  simp only [bind_eq_ok] at h
  obtain ⟨_, _, _, _, hthrow⟩ := h
  cases hthrow

/-- A booking reaches the lenders with the loss of the plan, and with nothing else. -/
theorem bookRepayment_loss {contract : ContractStateV1} {r r' : ReserveStateV1}
    {p : LiquidationPlan} (h : bookRepayment contract r p = .ok r') :
    (p.badDebt = true → BooksLoss contract
      { r with totalScaledBorrow := r'.totalScaledBorrow } r' p.badDebtUnderlying) ∧
    (p.badDebt = false → r' = { r with totalScaledBorrow := r'.totalScaledBorrow }) := by
  obtain ⟨total, ⟨hbad, -, hr'⟩ | ⟨hbad, -, halloc⟩⟩ := bookRepayment_spec h
  · refine ⟨fun hb => ?_, fun _ => ?_⟩
    · rw [hbad] at hb
      cases hb
    · rw [hr']
  · refine ⟨fun _ => ?_, fun hb => ?_⟩
    · unfold BooksLoss
      rcases halloc with ⟨halloc, hcut⟩ | ⟨halloc, hdeficit, hr'⟩
      · have htotal : r'.totalScaledBorrow = total := by rw [applyHaircut_frame hcut]
        rw [halloc, htotal]
        exact hcut
      · have htotal : r'.totalScaledBorrow = total := by rw [hr']
        rw [halloc, htotal]
        exact ⟨hdeficit, hr'⟩
    · rw [hbad] at hb
      cases hb

/-- The borrower after a liquidation: without debt, or healthy. -/
theorem liquidation_after {s s' : PoolStorage} {info : MessageInfo} {seize totals : Amounts}
    {t : LiquidationTarget} {p : LiquidationPlan} {r' : ReserveStateV1}
    (plan : p.Valid s.ownership s.contract info t seize)
    (hbook : bookRepayment s.contract t.reserve p = .ok r')
    (hs' : s' = shrinkOffer
      { (((s.setReserveStateV1 t.reserve).setScaledBorrow t.borrower
          (if p.badDebt then 0 else p.newScaledDebt)).setReserveStateV1
            r').setBorrowerCollateral t.borrower (if p.badDebt then ∅ else p.postCollateral) with
        totalCollateralByAsset := totals } t seize) :
    ((s'.getScaledBorrow t.borrower).val = 0 ∧
      (p.badDebt = true → s'.getBorrowerCollateral t.borrower = ∅)) ∨
    ∃ debt position,
      scaledToUnderlyingBorrow (s'.getScaledBorrow t.borrower) s'.reserve.borrowIndex = .ok debt ∧
      getBorrowerHealth s'.contract s'.contract.supportedCollateralAssets t.quoted.prices
        (s'.getBorrowerCollateral t.borrower) debt = .ok position ∧
      position.health = .healthy := by
  rw [shrinkOffer_eq] at hs'
  have hdebt : s'.getScaledBorrow t.borrower = if p.badDebt then 0 else p.newScaledDebt := by
    rw [hs']
    exact (PoolStorage.getScaledBorrow_set s _ _ _).trans (if_pos rfl)
  have hcollateral : s'.getBorrowerCollateral t.borrower =
      if p.badDebt then ∅ else p.postCollateral := by
    rw [hs']
    exact (PoolStorage.getBorrowerCollateral_set s _ _ _).trans (if_pos rfl)
  have hindex : s'.reserve.borrowIndex = t.reserve.borrowIndex := by
    have hreserve : s'.reserve = r' := by rw [hs']; rfl
    rw [hreserve, (bookRepayment_frame hbook).1]
  have hcontract : s'.contract = s.contract := by rw [hs']; rfl
  rw [hdebt, hcollateral, hindex, hcontract]
  cases hbad : p.badDebt with
  | true => exact Or.inl ⟨Uint.val_zero, fun _ => rfl⟩
  | false =>
    by_cases hnew : p.newScaledDebt.val = 0
    · exact Or.inl ⟨hnew, fun hb => by cases hb⟩
    · right
      have hhealth := plan.postHealth
      rw [hbad] at hhealth
      exact checkPostHealth_ok (Nat.pos_of_ne_zero hnew) hhealth

/-- Every successful liquidation, from every reachable state, is bounded. -/
theorem liquidation_loss_bound {deps : Deps} {s s' : PoolStorage} {env : Env}
    {info : MessageInfo} {borrower : String} {seize : Amounts} {res : Response}
    (hreach : Reachable s)
    (h : execute deps s env info (.liquidate borrower seize) = .ok (s', res)) :
    ∃ t p price, liquidationTarget deps s env info borrower seize = .ok t ∧
      planLiquidation s.ownership s.contract info t seize = .ok p ∧
      t.quoted.prices[s.contract.lendingDenom.name]? = some price ∧
      LossBounded s info seize s' res t p price := by
  have hliquidate : liquidate deps s env info borrower seize = .ok (s', res) := execute_eq_ok h
  obtain ⟨t, p, htarget, hplan, hsettle⟩ := liquidate_stages hliquidate
  have target := liquidationTarget_spec htarget
  have plan := planLiquidation_spec hplan
  obtain ⟨r', outgoing, totals, hbook, hout, -, hs', hmessages⟩ := settleLiquidation_spec hsettle
  obtain ⟨price, hprice, -, hsolvent, hfloor, hceiling⟩ := plan.values
  have hreserve : s'.reserve = r' := by
    rw [hs', shrinkOffer_eq]
    rfl
  obtain ⟨hloss, hnoLoss⟩ := bookRepayment_loss hbook
  rw [plan.seizedValue_eq] at hfloor hceiling
  have hbonus : usd (totalMarketValue t.quoted.prices seize) ≤
      s.contract.liquidationBonusRate.toRat * usd (price.valueAtomics p.actualRepay.val) :=
    usd_le_mul hceiling
  refine ⟨t, p, price, htarget, hplan, hprice, ?_⟩
  exact {
    funds := plan.funds
    repay := by rw [plan.repay_eq, Uint.min_val, target.payoff_eq]
    refund := liquidation_lending_sent hreach.collateralLedger target plan
      (by rw [bankSends_eq hmessages, List.filterMap_append]) hout
    residual := plan.newDebt_eq
    ceiling := hbonus
    floor := by
      rcases hfloor with hbad | hclear | hfloor
      · exact Or.inr (Or.inl hbad)
      · exact Or.inr (Or.inr hclear)
      · exact Or.inl hfloor
    writeOff := plan.badDebt_iff
    insolvent := fun hbad => by
      rw [← target.payoff_eq]
      exact hsolvent hbad
    paidFor := fun hbad => by
      have hpriced := pricedMarketValue_le plan hreach.collateralLedger.list hbad
      linarith
    loss := fun hbad => by
      have hceil := plan.loss
      rw [hbad] at hceil
      rw [hreserve]
      exact ⟨_, scaledToUnderlyingBorrowCeil_eq hceil, hloss hbad⟩
    noLoss := fun hbad => by
      rw [hreserve]
      exact hnoLoss hbad
    after := liquidation_after plan hbook hs' }

namespace Demo

/-- Gold falls to one dollar, and Alice's gold is sold for 96 dollars. -/
def crashLiquidation (s : PoolStorage) : ContractResult (PoolStorage × Response) :=
  execute (deps 1) s (env 0) ⟨"liquidator", [⟨"usd", 96⟩]⟩
    (.liquidate "alice" ((∅ : Amounts).insert "gold" 100))

/-- The liquidation leaves a deficit of 404 dollars. -/
def crashCheck (s : PoolStorage) : Bool :=
  match crashLiquidation s with
  | .ok (s', _) => decide (s'.reserve.deficitUnderlying.val = 404)
  | .error _ => false

theorem crash_ok :
    replayCheck (deps 10) (env 0) ⟨"owner", []⟩ deferredMsg opening crashCheck = true := by
  decide +kernel

end Demo

/-- The bound on the write-off of Alice's position, whose deficit is 404 dollars. -/
theorem liquidation_loss_bound_crash :
    ∃ s s' res t p price, s'.reserve.deficitUnderlying.val = 404 ∧
      LossBounded s ⟨"liquidator", [⟨"usd", 96⟩]⟩ ((∅ : Amounts).insert "gold" 100) s' res t p
        price := by
  obtain ⟨s₀, ts, s, hdeployed, run, -, hcheck⟩ := exists_run Demo.crash_ok
  have hreach : Reachable s := ⟨_, s₀, ts, hdeployed, run⟩
  unfold Demo.crashCheck at hcheck
  split at hcheck
  · rename_i s' res hliquidate
    obtain ⟨t, p, price, -, -, -, hbound⟩ := liquidation_loss_bound hreach hliquidate
    exact ⟨s, s', res, t, p, price, of_decide_eq_true hcheck, hbound⟩
  · cases hcheck

end DemocratizedPrime
