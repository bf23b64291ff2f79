import DemocratizedPrime.Pool.Safety.LiquidationGates
import DemocratizedPrime.Pool.Safety.LossAllocation

/-!
# A liquidatable position can be resolved

For a borrower who is liquidatable with every holding priced, no check stops two kinds of
calls, so that nothing but an overflow can (`liquidatable_is_resolved`).

* `FullClose`: the closing price is paid, and the seizure is worth between 100% and the
  bonus cap of it.
* `ShortClose`: the holdings are worth less than the closing price.  All of them are seized
  for a payment below the debt that they are worth at most the bonus cap of.

A borrower can owe a debt without any holdings: they may be taken out while the debt is
worth less than an atomic of a USD.  Such a borrower can become liquidatable, and is out of
reach for `liquidate` (`unsecured_is_not_resolved`).
-/

namespace DemocratizedPrime

open Result TreeMap

/-! ## The two calls -/

section Calls

variable {deps : Deps} {s : PoolStorage} {env : Env} {info : MessageInfo} {b : Addr}
  {r : ReserveStateV1} {debt sent : Uint128} {quoted : LiquidationPrices}
  {price : AssetPriceResponseV1} {borrower : String} {seize : Amounts} {t : LiquidationTarget}

/-- The closing price is paid, for a part of the holdings whose market value is between the
value of the closing price and the bonus cap of it. -/
structure FullClose (s : PoolStorage) (b : Addr) (r : ReserveStateV1)
    (quoted : LiquidationPrices) (price : AssetPriceResponseV1) (seize : Amounts)
    (sent : Uint128) : Prop where
  within : ∀ a, (amountOf seize a).val ≤ (amountOf (s.getBorrowerCollateral b) a).val
  positive : ∃ a, 0 < (amountOf seize a).val
  paid : closingPrice (s.getScaledBorrow b).val r.borrowIndex ≤ sent.val
  floor : price.valueAtomics (closingPrice (s.getScaledBorrow b).val r.borrowIndex) ≤
    totalMarketValue quoted.prices seize
  cap : totalMarketValue quoted.prices seize ≤
    price.valueAtomics (closingPrice (s.getScaledBorrow b).val r.borrowIndex) *
      s.contract.liquidationBonusRate.atomics / decimalFractional

/-- All holdings are seized, and they are worth less than the closing price.  The payment is
below the debt, cancels a scaled unit at least, and carries the holdings under its bonus
cap. -/
structure ShortClose (s : PoolStorage) (b : Addr) (r : ReserveStateV1)
    (quoted : LiquidationPrices) (price : AssetPriceResponseV1) (seize : Amounts)
    (sent : Uint128) : Prop where
  deferred : s.contract.badDebtLossAllocation = .deferredToDeficit
  all : ∀ a, amountOf seize a = amountOf (s.getBorrowerCollateral b) a
  insolvent : totalMarketValue quoted.prices (s.getBorrowerCollateral b) <
    price.valueAtomics (closingPrice (s.getScaledBorrow b).val r.borrowIndex)
  unpaid : sent.val < (s.getScaledBorrow b).val * r.borrowIndex.atomics / decimalFractional
  cancels : 1 ≤ sent.val * decimalFractional / r.borrowIndex.atomics
  cap : totalMarketValue quoted.prices (s.getBorrowerCollateral b) ≤
    price.valueAtomics sent.val * s.contract.liquidationBonusRate.atomics / decimalFractional

/-- The market value of a map depends on its amounts only. -/
theorem totalMarketValue_congr {prices : PriceMap} {m m' : Amounts}
    (h : ∀ a, amountOf m a = amountOf m' a) :
    totalMarketValue prices m = totalMarketValue prices m' := by
  have hcover : ∀ a, (amountOf m' a).val ≠ 0 → a ∈ assetSet m := by
    intro a ha
    rw [← h a] at ha
    exact mem_assetSet ha
  unfold totalMarketValue
  rw [sum_toList_eq_sum_assets (fun a => marketValue_zero _ a) m (fun _ => mem_assetSet),
    sum_toList_eq_sum_assets (fun a => marketValue_zero _ a) m' hcover]
  exact Finset.sum_congr rfl fun a _ => by rw [h a]

/-- Without unpriceable holdings the priced value is the value. -/
theorem pricedMarketValue_eq {q : LiquidationPrices} {m : Amounts} (h : q.unpriceable = []) :
    pricedMarketValue q m = totalMarketValue q.prices m := by
  unfold pricedMarketValue totalMarketValue
  simp [h]

/-- A seizure of everything leaves nothing of value. -/
theorem collateralValue_of_all_seized {col post : Amounts} {prices : PriceMap}
    {sup : List CollateralAssetV1} (hcol : NoNull Uint.isZero col)
    (hall : ∀ a, amountOf seize a = amountOf col a)
    (htaken : Taken col ((normalizeSeizeMap seize).toList.map entryCoin) post) :
    collateralValue prices sup post = 0 := by
  have hempty : post.isEmpty = true := by
    rw [isEmpty_iff_amountOf (htaken.noNull hcol)]
    intro a
    have hleft := htaken.amounts a
    rw [coinsOf_toList, normalizeSeizeMap_amountOf, hall a] at hleft
    omega
  rw [Std.ExtTreeMap.isEmpty_iff.mp hempty]
  rfl

/-- The closing price is at least the debt. -/
theorem debt_le_closingPrice (scaled : Nat) (bi : Decimal256) :
    scaled * bi.atomics / decimalFractional ≤ closingPrice scaled bi := by
  rcases closingPrice_eq_or scaled bi with h | h <;> omega

/-- A payment below the debt does not cancel all scaled units. -/
theorem units_lt_scaled {paid scaled : Nat} {bi : Decimal256}
    (h : paid < scaled * bi.atomics / decimalFractional) :
    paid * decimalFractional / bi.atomics < scaled := by
  have hcovered : (paid + 1) * decimalFractional ≤ scaled * bi.atomics :=
    (Nat.le_div_iff_mul_le (by decide)).mp h
  have hstrict : paid * decimalFractional < (paid + 1) * decimalFractional :=
    Nat.mul_lt_mul_of_pos_right (Nat.lt_succ_self paid) (by decide)
  apply Nat.div_lt_of_lt_mul
  rw [Nat.mul_comm bi.atomics]
  exact Nat.lt_of_lt_of_le hstrict hcovered

/-- What both calls share. -/
theorem Resolvable.onlyOverflows_plan (h : Resolvable deps s env b r debt quoted price)
    (hreach : Reachable s) (hcall : MayLiquidate deps s info borrower b sent)
    (ht : liquidationTarget deps s env info borrower seize = .ok t) (hsent : 1 ≤ sent.val)
    (hwithin : ∀ a, (amountOf seize a).val ≤ (amountOf t.collateral a).val)
    (hpositive : ∃ a, 0 < (amountOf seize a).val)
    (hcap : totalMarketValue t.quoted.prices seize ≤
      price.valueAtomics (sent.min t.debtPayoff).val *
        s.contract.liquidationBonusRate.atomics / decimalFractional)
    (hcancels : ∀ k, scaledRepayFor (sent.min t.debtPayoff) t.debtPayoff t.scaledDebt
      t.reserve.borrowIndex = .ok k → 0 < k.val)
    (hclears : ∀ k post, scaledRepayFor (sent.min t.debtPayoff) t.debtPayoff t.scaledDebt
      t.reserve.borrowIndex = .ok k →
      Taken t.collateral ((normalizeSeizeMap seize).toList.map entryCoin) post →
      ClearsGuards s.contract t price sent seize k post) :
    OnlyOverflows (planLiquidation s.ownership s.contract info t seize) := by
  obtain ⟨-, hreserve, -, -, -, hcol, hquoted⟩ := h.target_eq hcall.address ht
  apply onlyOverflows_planLiquidation hcall.funds hsent _ (h.price_nonzero hreach.configSafety) _ _
    _ _ hwithin hpositive hcap hcancels hclears
  · rw [hquoted]
    exact h.lending
  · rw [hquoted]
    exact h.priced
  · rw [hquoted, hcol]
    exact h.holdings_priced
  · rw [hcol]
    exact hreach.collateralLedger.supported b
  · rw [hreserve]
    exact Nat.ne_of_gt (h.index_pos hreach.configSafety)

theorem FullClose.onlyOverflows_plan (hclose : FullClose s b r quoted price seize sent)
    (h : Resolvable deps s env b r debt quoted price) (hreach : Reachable s)
    (hcall : MayLiquidate deps s info borrower b sent)
    (ht : liquidationTarget deps s env info borrower seize = .ok t) :
    OnlyOverflows (planLiquidation s.ownership s.contract info t seize) := by
  obtain ⟨-, hreserve, hscaled, hdebt, hpayoff, hcol, hquoted⟩ := h.target_eq hcall.address ht
  have hpos := h.scaled_pos hreach.configSafety
  have hprice := debt_le_closingPrice (s.getScaledBorrow b).val r.borrowIndex
  have hpaid := hclose.paid
  have hmin : (sent.min t.debtPayoff).val =
      closingPrice (s.getScaledBorrow b).val r.borrowIndex := by
    rw [Uint.min_val, hpayoff]
    exact Nat.min_eq_right hpaid
  have hdebtpos := h.debt_pos hreach.configSafety
  rw [h.debt_eq] at hdebtpos
  -- All scaled units are cancelled.
  have hall : ∀ k, scaledRepayFor (sent.min t.debtPayoff) t.debtPayoff t.scaledDebt
      t.reserve.borrowIndex = .ok k → k = t.scaledDebt := by
    intro k hk
    rcases scaledRepayFor_spec hk with ⟨-, hk⟩ | ⟨hlt, -⟩
    · exact hk
    · omega
  apply h.onlyOverflows_plan hreach hcall ht (by omega) _ hclose.positive
  · rw [hmin, hquoted]
    exact hclose.cap
  · intro k hk
    rw [hall k hk, hscaled]
    exact hpos
  · intro k post hk _
    refine .full (by rw [hall k hk]) ?_
    rw [hmin, hquoted]
    exact hclose.floor
  · rw [hcol]
    exact hclose.within

theorem ShortClose.onlyOverflows_plan (hclose : ShortClose s b r quoted price seize sent)
    (h : Resolvable deps s env b r debt quoted price) (hreach : Reachable s)
    (hcall : MayLiquidate deps s info borrower b sent)
    (hholds : (s.getBorrowerCollateral b).isEmpty = false)
    (ht : liquidationTarget deps s env info borrower seize = .ok t) :
    OnlyOverflows (planLiquidation s.ownership s.contract info t seize) := by
  obtain ⟨-, hreserve, hscaled, hdebt, hpayoff, hcol, hquoted⟩ := h.target_eq hcall.address ht
  have hprice := debt_le_closingPrice (s.getScaledBorrow b).val r.borrowIndex
  have hunpaid := hclose.unpaid
  have hcancels := hclose.cancels
  have hnoZero := hreach.collateralLedger.holdings_noZero b
  have hmin : (sent.min t.debtPayoff).val = sent.val := by
    rw [Uint.min_val]
    exact Nat.min_eq_left (by omega)
  have hsent : 1 ≤ sent.val := by
    apply Nat.pos_of_ne_zero
    intro hzero
    rw [hzero, Nat.zero_mul, Nat.zero_div] at hcancels
    exact Nat.lt_irrefl _ hcancels
  -- Some, but not all, scaled units are cancelled.
  have hsome : ∀ k, scaledRepayFor (sent.min t.debtPayoff) t.debtPayoff t.scaledDebt
      t.reserve.borrowIndex = .ok k →
      k.val = sent.val * decimalFractional / r.borrowIndex.atomics := by
    intro k hk
    rcases scaledRepayFor_spec hk with ⟨hle, -⟩ | ⟨-, -, hk⟩
    · omega
    · rw [hk, hmin, hreserve]
  have hless := units_lt_scaled hunpaid
  have hpositive : ∃ a, 0 < (amountOf seize a).val := by
    obtain ⟨a, ha⟩ := exists_amountOf_pos hnoZero hholds
    exact ⟨a, by rwa [hclose.all a]⟩
  apply h.onlyOverflows_plan hreach hcall ht hsent _ hpositive
  · rw [hmin, hquoted, totalMarketValue_congr hclose.all]
    exact hclose.cap
  · intro k hk
    rw [hsome k hk]
    exact hcancels
  · intro k post hk htaken
    rw [hcol] at htaken
    refine .short ?_ ?_ ?_ ?_
    · rw [hsome k hk, hscaled]
      exact hless
    · exact collateralValue_of_all_seized hnoZero hclose.all htaken
    · rw [hquoted, hcol, pricedMarketValue_eq h.priced, hpayoff]
      exact hclose.insolvent
    · rw [hdebt, h.debt_eq]
      exact hunpaid
  · intro a
    rw [hcol, hclose.all a]

/-! ## The result -/

/-- A paused pool aside, a liquidation is dispatched. -/
theorem execute_liquidate_eq (hactive : s.contract.operationalState ≠ .paused) :
    execute deps s env info (.liquidate borrower seize) =
      liquidate deps s env info borrower seize := by
  have hopen : (ExecuteMsg.liquidate borrower seize).isLendOrBorrow = false := rfl
  unfold execute
  rw [ensure, if_pos (Or.inr hactive), ok_bind, ensure, if_pos (Or.inr hopen), ok_bind]
  rfl

/-- A call that can only overflow, and does not, goes through its three stages. -/
theorem Resolvable.liquidated (hreach : Reachable s)
    (h : Resolvable deps s env b r debt quoted price)
    (hcall : MayLiquidate deps s info borrower b sent)
    (hholds : (s.getBorrowerCollateral b).isEmpty = false)
    (hplan : ∀ t, liquidationTarget deps s env info borrower seize = .ok t →
      OnlyOverflows (planLiquidation s.ownership s.contract info t seize))
    (hdeferred : ∀ t p, liquidationTarget deps s env info borrower seize = .ok t →
      planLiquidation s.ownership s.contract info t seize = .ok p → p.badDebt = true →
      s.contract.badDebtLossAllocation = .deferredToDeficit)
    (hfits : AllErrors (fun e => ¬ IsArithmeticOverflow e)
      (execute deps s env info (.liquidate borrower seize))) :
    ∃ s' res t p r' totals, execute deps s env info (.liquidate borrower seize) = .ok (s', res) ∧
      t.borrower = b ∧ t.reserve = r ∧ t.scaledDebt = s.getScaledBorrow b ∧
      t.debtPayoff.val = closingPrice (s.getScaledBorrow b).val r.borrowIndex ∧
      t.collateral = s.getBorrowerCollateral b ∧
      p.Valid s.ownership s.contract info t seize ∧ bookRepayment s.contract r p = .ok r' ∧
      s' = settled (s.setReserveStateV1 r) t p seize r' totals := by
  rw [execute_liquidate_eq hcall.active] at hfits ⊢
  have htarget : OnlyOverflows (liquidationTarget deps s env info borrower seize) :=
    h.onlyOverflows_target hreach.configSafety hcall.access hcall.address hholds
  have honly := onlyOverflows_liquidate hreach htarget hplan hdeferred
  obtain ⟨⟨s', res⟩, hok⟩ := honly.isOk hfits
  obtain ⟨t, p, ht, hp, hsettle⟩ := liquidate_stages hok
  obtain ⟨hborrower, hreserve, hscaled, -, hpayoff, hcol, -⟩ := h.target_eq hcall.address ht
  obtain ⟨r', outgoing, totals, hbook, -, -, hs', -⟩ := settleLiquidation_computed hsettle
  rw [hreserve] at hbook hs'
  exact ⟨s', res, t, p, r', totals, hok, hborrower, hreserve, hscaled, hpayoff, hcol,
    planLiquidation_spec hp, hbook, hs'⟩

/-- The plan of a call works with the coins that are attached. -/
theorem MayLiquidate.sent_eq {p : LiquidationPlan}
    (hcall : MayLiquidate deps s info borrower b sent)
    (plan : p.Valid s.ownership s.contract info t seize) : p.sent = sent := by
  have hfunds := plan.funds
  rw [hcall.funds] at hfunds
  simpa using hfunds.symm

/-- A full close leaves nothing of the debt. -/
theorem FullClose.newDebt_eq {p : LiquidationPlan}
    (hclose : FullClose s b r quoted price seize sent)
    (hcall : MayLiquidate deps s info borrower b sent)
    (hpayoff : t.debtPayoff.val = closingPrice (s.getScaledBorrow b).val r.borrowIndex)
    (plan : p.Valid s.ownership s.contract info t seize) : p.newScaledDebt.val = 0 := by
  have hpaid := hclose.paid
  have hleft := plan.newDebt_eq
  have hmin : p.actualRepay.val = min sent.val t.debtPayoff.val := by
    rw [plan.repay_eq, hcall.sent_eq plan, Uint.min_val]
  rcases scaledRepayFor_spec plan.scaledRepay_eq with ⟨-, hall⟩ | ⟨hlt, -⟩
  · rw [hall] at hleft
    omega
  · omega

/-- A short close leaves the scaled units that the payment does not cancel. -/
theorem ShortClose.newDebt_eq {p : LiquidationPlan}
    (hclose : ShortClose s b r quoted price seize sent)
    (hcall : MayLiquidate deps s info borrower b sent) (hreserve : t.reserve = r)
    (hscaled : t.scaledDebt = s.getScaledBorrow b)
    (hpayoff : t.debtPayoff.val = closingPrice (s.getScaledBorrow b).val r.borrowIndex)
    (plan : p.Valid s.ownership s.contract info t seize) :
    p.newScaledDebt.val = (s.getScaledBorrow b).val -
      sent.val * decimalFractional / r.borrowIndex.atomics := by
  have hunpaid := hclose.unpaid
  have hprice := debt_le_closingPrice (s.getScaledBorrow b).val r.borrowIndex
  have hleft := plan.newDebt_eq
  have hmin : p.actualRepay.val = min sent.val t.debtPayoff.val := by
    rw [plan.repay_eq, hcall.sent_eq plan, Uint.min_val]
  rcases scaledRepayFor_spec plan.scaledRepay_eq with ⟨hle, -⟩ | ⟨-, -, hunits⟩
  · omega
  · have happlied : p.actualRepay.val = sent.val := by omega
    rw [happlied, hreserve] at hunits
    rw [hscaled] at hleft
    omega

/-- A short close is a write-off. -/
theorem ShortClose.badDebt {p : LiquidationPlan}
    (hclose : ShortClose s b r quoted price seize sent) (hreach : Reachable s)
    (hcall : MayLiquidate deps s info borrower b sent) (hreserve : t.reserve = r)
    (hscaled : t.scaledDebt = s.getScaledBorrow b)
    (hpayoff : t.debtPayoff.val = closingPrice (s.getScaledBorrow b).val r.borrowIndex)
    (hcol : t.collateral = s.getBorrowerCollateral b)
    (plan : p.Valid s.ownership s.contract info t seize) : p.badDebt = true := by
  have hless := units_lt_scaled hclose.unpaid
  have hnew := hclose.newDebt_eq hcall hreserve hscaled hpayoff plan
  have htaken := plan.taken
  rw [hcol] at htaken
  rw [plan.badDebt_iff]
  refine ⟨by omega, ?_⟩
  exact collateralValue_of_all_seized (hreach.collateralLedger.holdings_noZero b) hclose.all htaken

/-- What a deferred write-off leaves of the debt is added to the deficit. -/
theorem ShortClose.deficit_eq {p : LiquidationPlan} {r₀ r' : ReserveStateV1}
    (hclose : ShortClose s b r quoted price seize sent) (hbad : p.badDebt = true)
    (hbook : bookRepayment s.contract r₀ p = .ok r')
    (plan : p.Valid s.ownership s.contract info t seize) :
    r'.deficitUnderlying.val =
      r₀.deficitUnderlying.val + closingPrice p.newScaledDebt.val t.reserve.borrowIndex := by
  have hloss := plan.loss
  rw [badDebtLoss, if_pos hbad] at hloss
  have hvalue := scaledToUnderlyingBorrowCeil_eq hloss
  obtain ⟨total, ⟨hno, -⟩ | ⟨-, -, ⟨himmediate, -⟩ | ⟨-, hdeficit, -⟩⟩⟩ := bookRepayment_spec hbook
  · rw [hbad] at hno
    cases hno
  · rw [hclose.deferred] at himmediate
    cases himmediate
  · rw [hdeficit, hvalue]
    rfl

/-- Nothing but an overflow stops either call. -/
theorem liquidatable_is_resolved (hreach : Reachable s)
    (h : Resolvable deps s env b r debt quoted price)
    (hcall : MayLiquidate deps s info borrower b sent)
    (hfits : AllErrors (fun e => ¬ IsArithmeticOverflow e)
      (execute deps s env info (.liquidate borrower seize))) :
    (FullClose s b r quoted price seize sent →
      ∃ s' res, execute deps s env info (.liquidate borrower seize) = .ok (s', res) ∧
        (s'.getScaledBorrow b).val = 0) ∧
    ((s.getBorrowerCollateral b).isEmpty = false → ShortClose s b r quoted price seize sent →
      ∃ s' res, execute deps s env info (.liquidate borrower seize) = .ok (s', res) ∧
        (s'.getScaledBorrow b).val = 0 ∧ s'.getBorrowerCollateral b = ∅ ∧
        s'.reserve.deficitUnderlying.val = s.reserve.deficitUnderlying.val +
          closingPrice ((s.getScaledBorrow b).val -
            sent.val * decimalFractional / r.borrowIndex.atomics) r.borrowIndex) := by
  constructor
  · intro hclose
    have hholds : (s.getBorrowerCollateral b).isEmpty = false := by
      obtain ⟨a, ha⟩ := hclose.positive
      have hheld := Nat.lt_of_lt_of_le ha (hclose.within a)
      exact (request_nonempty ⟨a, hheld⟩).2
    have hnoLoss : ∀ t p, liquidationTarget deps s env info borrower seize = .ok t →
        planLiquidation s.ownership s.contract info t seize = .ok p → p.badDebt = true →
        s.contract.badDebtLossAllocation = .deferredToDeficit := by
      intro t p ht hp hbad
      obtain ⟨-, -, -, -, hpayoff, -⟩ := h.target_eq hcall.address ht
      have plan := planLiquidation_spec hp
      have hnew := hclose.newDebt_eq hcall hpayoff plan
      have hrest := (plan.badDebt_iff.mp hbad).1
      omega
    obtain ⟨s', res, t, p, r', totals, hok, hborrower, -, -, hpayoff, -, plan, -, hs'⟩ :=
      h.liquidated hreach hcall hholds (fun t ht => hclose.onlyOverflows_plan h hreach hcall ht)
        hnoLoss hfits
    have hnew := hclose.newDebt_eq hcall hpayoff plan
    refine ⟨s', res, hok, ?_⟩
    rw [hs', ← hborrower, settled_debt]
    split
    · rfl
    · exact hnew
  · intro hholds hclose
    obtain ⟨s', res, t, p, r', totals, hok, hborrower, hreserve, hscaled, hpayoff, hcol, plan,
      hbook, hs'⟩ := h.liquidated hreach hcall hholds
        (fun t ht => hclose.onlyOverflows_plan h hreach hcall hholds ht)
        (fun _ _ _ _ _ => hclose.deferred) hfits
    have hnew := hclose.newDebt_eq hcall hreserve hscaled hpayoff plan
    have hbad := hclose.badDebt hreach hcall hreserve hscaled hpayoff hcol plan
    refine ⟨s', res, hok, ?_, ?_, ?_⟩
    · rw [hs', ← hborrower, settled_debt, if_pos hbad]
      rfl
    · rw [hs', ← hborrower, settled_holdings, if_pos hbad]
    · rw [hs', settled_reserve, hclose.deficit_eq hbad hbook plan, hreserve, hnew,
        h.accrued.deficitUnderlying]

end Calls

namespace Demo

/-- A dollar is at the price given in cents, and has eighteen decimals. -/
def depsCents (cents : Nat) : Deps :=
  depsFor fun asset =>
    if asset = "usd" then some { quote 1 with displayPriceUsd := percent cents, precision := 18 }
    else (deps 10).storedQuote "oracle" asset

/-- The liquidator with coins. -/
def buyer (sent : Uint128) : MessageInfo := ⟨"liquidator", [⟨"usd", sent⟩]⟩

/-- Alice's position is resolvable, and passes a test. -/
def positionCheck (quotes : Deps) (s : PoolStorage)
    (test : ReserveStateV1 → LiquidationPrices → AssetPriceResponseV1 → Bool) :
    ContractResult Bool := do
  let r ← computeEffectiveReserve s (env 0).blockTime s.contract.rateParams
  let held := s.getBorrowerCollateral "alice"
  let quoted ← getAssetPricesForLiquidation quotes (env 0).blockTime s.contract held
  let price ← okOr quoted.prices[s.contract.lendingDenom.name]? (notFound "price")
  let debt ← scaledToUnderlyingBorrow (s.getScaledBorrow "alice") r.borrowIndex
  let position ← getBorrowerHealth s.contract s.contract.supportedCollateralAssets quoted.prices
    held debt
  return decide (position.health = .liquidatable) && decide (quoted.unpriceable = []) &&
    test r quoted price

theorem position_check {quotes : Deps} {s : PoolStorage}
    {test : ReserveStateV1 → LiquidationPrices → AssetPriceResponseV1 → Bool}
    (h : positionCheck quotes s test = .ok true) :
    ∃ r debt quoted price, Resolvable quotes s (env 0) "alice" r debt quoted price ∧
      test r quoted price = true := by
  simp only [positionCheck, bind_eq_ok, okOr_eq_ok, pure_eq_ok, Bool.and_eq_true,
    decide_eq_true_eq] at h
  obtain ⟨r, hr, quoted, hquoted, price, hprice, debt, hdebt, position, hposition, ⟨hbad, hnone⟩,
    htest⟩ := h
  exact ⟨r, debt, quoted, price, ⟨hr, scaledToUnderlying_eq hdebt, hquoted, hnone, hprice,
    position, hposition, hbad⟩, htest⟩

/-- The liquidator may call. -/
def buyerCheck (s : PoolStorage) : Bool :=
  decide (s.contract.operationalState ≠ .paused) &&
    (checkLiquidationAccess s.contract "liquidator").isOk &&
    decide (s.contract.lendingDenom.name = "usd")

theorem buyer_check {quotes : String → Option AssetPriceResponseV1} {s : PoolStorage}
    (h : buyerCheck s = true) (sent : Uint128) :
    MayLiquidate (depsFor quotes) s (buyer sent) "alice" "alice" sent := by
  simp only [buyerCheck, Bool.and_eq_true, decide_eq_true_eq, isOk_iff] at h
  obtain ⟨⟨hactive, ⟨_, haccess⟩⟩, hname⟩ := h
  have htrim : trim "alice" = "alice" := by decide +kernel
  refine ⟨hactive, haccess, addrValidate_eq_ok.mpr ⟨rfl, htrim.symm⟩, ?_⟩
  rw [hname]
  rfl

/-- The conditions of a full close that seizes all of Alice's gold. -/
def fullCheck (s : PoolStorage) (sent : Uint128) (r : ReserveStateV1) (quoted : LiquidationPrices)
    (price : AssetPriceResponseV1) : Bool :=
  let payoff := closingPrice (s.getScaledBorrow "alice").val r.borrowIndex
  let value := totalMarketValue quoted.prices (s.getBorrowerCollateral "alice")
  decide (0 < (amountOf (s.getBorrowerCollateral "alice") "gold").val) &&
    decide (payoff ≤ sent.val) && decide (price.valueAtomics payoff ≤ value) &&
    decide (value ≤
      price.valueAtomics payoff * s.contract.liquidationBonusRate.atomics / decimalFractional)

theorem full_check {s : PoolStorage} {sent : Uint128} {r : ReserveStateV1}
    {quoted : LiquidationPrices} {price : AssetPriceResponseV1}
    (h : fullCheck s sent r quoted price = true) :
    FullClose s "alice" r quoted price (s.getBorrowerCollateral "alice") sent := by
  simp only [fullCheck, Bool.and_eq_true, decide_eq_true_eq] at h
  obtain ⟨⟨⟨hgold, hpaid⟩, hfloor⟩, hcap⟩ := h
  exact ⟨fun _ => Nat.le_refl _, ⟨"gold", hgold⟩, hpaid, hfloor, hcap⟩

/-- The conditions of a short close. -/
def shortCheck (s : PoolStorage) (sent : Uint128) (r : ReserveStateV1)
    (quoted : LiquidationPrices) (price : AssetPriceResponseV1) : Bool :=
  let scaled := (s.getScaledBorrow "alice").val
  let value := totalMarketValue quoted.prices (s.getBorrowerCollateral "alice")
  decide (s.contract.badDebtLossAllocation = .deferredToDeficit) &&
    decide (value < price.valueAtomics (closingPrice scaled r.borrowIndex)) &&
    decide (sent.val < scaled * r.borrowIndex.atomics / decimalFractional) &&
    decide (1 ≤ sent.val * decimalFractional / r.borrowIndex.atomics) &&
    decide (value ≤
      price.valueAtomics sent.val * s.contract.liquidationBonusRate.atomics / decimalFractional)

theorem short_check {s : PoolStorage} {sent : Uint128} {r : ReserveStateV1}
    {quoted : LiquidationPrices} {price : AssetPriceResponseV1}
    (h : shortCheck s sent r quoted price = true) :
    ShortClose s "alice" r quoted price (s.getBorrowerCollateral "alice") sent := by
  simp only [shortCheck, Bool.and_eq_true, decide_eq_true_eq] at h
  obtain ⟨⟨⟨⟨hdeferred, hinsolvent⟩, hunpaid⟩, hcancels⟩, hcap⟩ := h
  exact ⟨hdeferred, fun _ => rfl, hinsolvent, hunpaid, hcancels, hcap⟩

/-- All of Alice's gold is requested for the coins given. -/
def takeAll (quotes : Deps) (s : PoolStorage) (sent : Uint128) :
    ContractResult (PoolStorage × Response) :=
  execute quotes s (env 0) (buyer sent) (.liquidate "alice" (s.getBorrowerCollateral "alice"))

/-- At five dollars the gold is worth the debt, and at one dollar a fifth of it. -/
def resolvedCheck (s : PoolStorage) : Bool :=
  buyerCheck s && decide ((s.getBorrowerCollateral "alice").isEmpty = false) &&
    decide (positionCheck (deps 5) s (fullCheck s 500) = .ok true) &&
    (takeAll (deps 5) s 500).isOk &&
    decide (positionCheck (deps 1) s (shortCheck s 99) = .ok true) &&
    (takeAll (deps 1) s 99).isOk

theorem resolved_ok :
    replayCheck (deps 10) (env 0) ⟨"owner", []⟩ deferredMsg opening resolvedCheck = true := by
  decide +kernel

/-- Fifty base units are worth half an atomic, so Alice takes out all of her gold. -/
def unsecured : List Call :=
  [call "lender" [⟨"usd", 1000⟩] .lend, call "alice" [⟨"gold", 100⟩] .addCollateral,
    ⟨depsCents 1, env 0, ⟨"alice", []⟩, .borrow 50⟩,
    ⟨depsCents 1, env 0, ⟨"alice", []⟩, .removeCollateral ((∅ : Amounts).insert "gold" 100)⟩]

/-- At a full dollar her debt is worth something, and there is nothing to seize for it. -/
def unsecuredCheck (s : PoolStorage) : Bool :=
  buyerCheck s && decide (positionCheck (depsCents 100) s (shortCheck s 25) = .ok true) &&
    match takeAll (depsCents 100) s 25 with
    | .ok _ => false
    | .error e => decide (e = illegalArgument "Borrower has no collateral")

theorem unsecured_ok :
    replayCheck (deps 10) (env 0) ⟨"owner", []⟩ deferredMsg unsecured unsecuredCheck = true := by
  decide +kernel

end Demo

/-- Both calls, at five dollars and at one. -/
theorem liquidatable_is_resolved_opening :
    ∃ s, Reachable s ∧
      (∃ s' res, Demo.takeAll (Demo.deps 5) s 500 = .ok (s', res) ∧
        (s'.getScaledBorrow "alice").val = 0) ∧
      ∃ s' res, Demo.takeAll (Demo.deps 1) s 99 = .ok (s', res) ∧
        (s'.getScaledBorrow "alice").val = 0 ∧ s'.getBorrowerCollateral "alice" = ∅ := by
  obtain ⟨s₀, ts, s, hstart, hrun, -, hcheck⟩ := exists_run Demo.resolved_ok
  have hreach : Reachable s := ⟨_, s₀, ts, hstart, hrun⟩
  simp only [Demo.resolvedCheck, Bool.and_eq_true, decide_eq_true_eq, isOk_iff] at hcheck
  obtain ⟨⟨⟨⟨⟨hbuyer, hholds⟩, hfull⟩, ⟨out, hfullOk⟩⟩, hshort⟩, ⟨out', hshortOk⟩⟩ := hcheck
  refine ⟨s, hreach, ?_, ?_⟩
  · obtain ⟨r, debt, quoted, price, hposition, htest⟩ := Demo.position_check hfull
    have hfits : AllErrors (fun e => ¬ IsArithmeticOverflow e)
        (Demo.takeAll (Demo.deps 5) s 500) := by
      rw [hfullOk]
      exact allErrors_ok
    exact (liquidatable_is_resolved hreach hposition (Demo.buyer_check hbuyer 500) hfits).1
      (Demo.full_check htest)
  · obtain ⟨r, debt, quoted, price, hposition, htest⟩ := Demo.position_check hshort
    have hfits : AllErrors (fun e => ¬ IsArithmeticOverflow e)
        (Demo.takeAll (Demo.deps 1) s 99) := by
      rw [hshortOk]
      exact allErrors_ok
    obtain ⟨s', res, hok, hdebt, hheld, -⟩ :=
      (liquidatable_is_resolved hreach hposition (Demo.buyer_check hbuyer 99) hfits).2 hholds
        (Demo.short_check htest)
    exact ⟨s', res, hok, hdebt, hheld⟩

/-- A borrower without holdings is liquidatable, meets every condition of a short close, and
cannot be liquidated, although nothing overflows. -/
theorem unsecured_is_not_resolved :
    ∃ s r debt quoted price, Reachable s ∧
      Resolvable (Demo.depsCents 100) s (Demo.env 0) "alice" r debt quoted price ∧
      MayLiquidate (Demo.depsCents 100) s (Demo.buyer 25) "alice" "alice" 25 ∧
      ShortClose s "alice" r quoted price (s.getBorrowerCollateral "alice") 25 ∧
      AllErrors (fun e => ¬ IsArithmeticOverflow e)
        (Demo.takeAll (Demo.depsCents 100) s 25) ∧
      ¬ ∃ s' res, Demo.takeAll (Demo.depsCents 100) s 25 = .ok (s', res) := by
  obtain ⟨s₀, ts, s, hstart, hrun, -, hcheck⟩ := exists_run Demo.unsecured_ok
  simp only [Demo.unsecuredCheck, Bool.and_eq_true, decide_eq_true_eq] at hcheck
  obtain ⟨⟨hbuyer, hposition⟩, hrefused⟩ := hcheck
  obtain ⟨r, debt, quoted, price, hposition, htest⟩ := Demo.position_check hposition
  refine ⟨s, r, debt, quoted, price, ⟨_, s₀, ts, hstart, hrun⟩, hposition,
    Demo.buyer_check hbuyer 25, Demo.short_check htest, ?_⟩
  cases htake : Demo.takeAll (Demo.depsCents 100) s 25 with
  | ok out =>
    rw [htake] at hrefused
    cases hrefused
  | error e =>
    rw [htake] at hrefused
    have he : e = illegalArgument "Borrower has no collateral" := of_decide_eq_true hrefused
    refine ⟨?_, ?_⟩
    · rw [he, allErrors_error]
      exact not_isArithmeticOverflow_illegalArgument
    · rintro ⟨s', res, hok⟩
      cases hok

end DemocratizedPrime
