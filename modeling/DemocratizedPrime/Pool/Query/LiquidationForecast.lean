import DemocratizedPrime.Pool.Query.BorrowerPosition
import DemocratizedPrime.Pool.Safety.DebtPayments
import DemocratizedPrime.Pool.Safety.NoInstantLiquidation

/-!
# What the position of a borrower says about a liquidation

A keeper reads `GetBorrowerPosition` and then calls `Liquidate`.  The query accrues without
saving, and filters one answer of the oracle twice; the call accrues, saves, and asks the
oracle again.  In one block both work with the same debt, the same holdings and the same
quotes, so the keeper can rely on the answer:

* `liquidationTarget_isOk_iff`: the gates of a liquidation open for a position that is
  shown as liquidatable, as long as its closing price is a `u128`;
* `addSeizedValue_refuses_iff`: the holdings that are shown as unpriceable are those that
  a liquidation refuses to seize;
* `closingPrice_eq_or`, `repay_clears_iff`, `liquidation_clears_iff`: the price of clearing
  the debt is the debt that is shown, or one coin more;
* `healthy_not_liquidatable`: the two views of the health do not contradict each other.
-/

namespace DemocratizedPrime

open Result

section

variable {deps : Deps} {s s' : PoolStorage} {env : Env} {info : MessageInfo} {b : Addr}
  {p : BorrowerPosition} {r : ReserveStateV1}

/-! ## The gates -/

/-- A position that is liquidatable has a debt. -/
theorem debt_pos_of_liquidatable {c : ContractStateV1} {prices : PriceMap} {col : Amounts}
    {debt : Uint128} {position : BorrowerHealth} (hrate : 0 < c.liquidationRate.atomics)
    (h : getBorrowerHealth c c.supportedCollateralAssets prices col debt = .ok position)
    (hbad : position.health = .liquidatable) : 0 < debt.val := by
  obtain ⟨hhealth, hltv⟩ := getBorrowerHealth_eq h
  rw [hhealth, getHealthFromLtv_liquidatable_iff, Decimal256.le_def, hltv] at hbad
  apply Nat.pos_of_ne_zero
  intro hzero
  have hvalue : debtValue prices c.lendingDenom.name debt.val = 0 := by
    unfold debtValue
    rw [hzero]
    split <;> simp
  rw [hvalue, ltvAtomics_no_debt] at hbad
  omega

/-- The gates open for a debt whose health is liquidatable.  What is left is the closing
price. -/
theorem liquidationTarget_gates {borrower : String} {seize : Amounts} {debt : Uint128}
    {quoted : LiquidationPrices} {position : BorrowerHealth}
    (haccess : checkLiquidationAccess s.contract info.sender = .ok ())
    (haddress : deps.addrValidate (trim borrower) = .ok b) (hr : AccruedTo s env.blockTime r)
    (hscaled : 0 < (s.getScaledBorrow b).val)
    (hdebt : scaledToUnderlyingBorrow (s.getScaledBorrow b) r.borrowIndex = .ok debt)
    (hpos : 0 < debt.val) (hcol : (s.getBorrowerCollateral b).isEmpty = false)
    (hquoted : getAssetPricesForLiquidation deps env.blockTime s.contract
      (s.getBorrowerCollateral b) = .ok quoted)
    (hposition : getBorrowerHealth s.contract s.contract.supportedCollateralAssets quoted.prices
      (s.getBorrowerCollateral b) debt = .ok position)
    (hbad : position.health = .liquidatable) :
    ∃ f : Uint128 → LiquidationTarget, liquidationTarget deps s env info borrower seize =
      f <$> scaledToUnderlyingBorrowCeil (s.getScaledBorrow b) r.borrowIndex := by
  have haccrue : updateReserveIndexes s env s.contract.rateParams =
      .ok (s.setReserveStateV1 r, r) := updateReserveIndexes_eq_ok.mpr ⟨hr, rfl⟩
  have hsame : (s.setReserveStateV1 r).getScaledBorrow b = s.getScaledBorrow b := rfl
  have hsame' : (s.setReserveStateV1 r).getBorrowerCollateral b = s.getBorrowerCollateral b := rfl
  have hopen (fill : Bool) : fill = true ∨ position.health = .liquidatable := Or.inr hbad
  unfold liquidationTarget
  dsimp only
  rw [haccess, ok_bind, haddress, ok_bind, haccrue, ok_bind]
  simp only [hsame, hsame', ensure, hscaled, hdebt, hpos, hcol, hquoted, hposition, hopen, if_true,
    ok_bind]
  exact ⟨_, bind_pure_comp _ _⟩

/-- The block and the answer of the oracle determine the target. -/
theorem LiquidationTarget.Valid.determined {borrower : String} {seize : Amounts}
    {t : LiquidationTarget} {quoted : LiquidationPrices}
    (valid : t.Valid deps s env info borrower seize) (hb : trim borrower = b)
    (hr : AccruedTo s env.blockTime r)
    (hquoted : getAssetPricesForLiquidation deps env.blockTime s.contract
      (s.getBorrowerCollateral b) = .ok quoted) :
    t.borrower = b ∧ t.reserve = r ∧ t.scaledDebt = s.getScaledBorrow b ∧
      t.debtUnderlying.val =
        (s.getScaledBorrow b).val * r.borrowIndex.atomics / decimalFractional ∧
      t.debtPayoff.val = closingPrice (s.getScaledBorrow b).val r.borrowIndex ∧
      t.collateral = s.getBorrowerCollateral b ∧ t.quoted = quoted := by
  have hborrower : t.borrower = b := valid.borrower_eq.trans hb
  have hreserve : t.reserve = r := valid.accrued.unique hr
  have hscaled : t.scaledDebt = s.getScaledBorrow b := by
    rw [valid.scaledDebt_eq, hborrower]
  have hcollateral : t.collateral = s.getBorrowerCollateral b := by
    rw [valid.collateral_eq, hborrower]
  refine ⟨hborrower, hreserve, hscaled, ?_, ?_, hcollateral, ?_⟩
  · rw [valid.debt_eq, hscaled, hreserve]
  · rw [valid.payoff_eq, hscaled, hreserve]
    rfl
  · have hanswer := valid.quoted_eq
    rw [hcollateral, hquoted] at hanswer
    exact (Except.ok.inj hanswer).symm

/-- For a position that is shown as liquidatable a liquidation computes the closing price and
passes the gates. -/
theorem liquidationTarget_of_shown {borrower : String} (seize : Amounts) (hs : ConfigSafety s)
    (hp : p.Valid deps s env b) (hr : AccruedTo s env.blockTime r)
    (hcol : (s.getBorrowerCollateral b).isEmpty = false) (hborrower : trim borrower = b)
    (haccess : checkLiquidationAccess s.contract info.sender = .ok ())
    (hshown : p.figures.liquidationView.health = .liquidatable) :
    ∃ f : Uint128 → LiquidationTarget, liquidationTarget deps s env info borrower seize =
      f <$> scaledToUnderlyingBorrowCeil (s.getScaledBorrow b) r.borrowIndex := by
  obtain ⟨r', hr', hdebt⟩ := hp.accrued
  obtain rfl := hr.unique hr'
  obtain ⟨stored, prices, quoted, -, hquoted, -, -, -, hview, -⟩ := hp.prices
  have hrate : 0 < s.contract.liquidationRate.atomics := by
    have hlt := hs.rates.margin_lt
    rw [Decimal256.lt_def] at hlt
    omega
  subst hborrower
  rcases healthFromPrices_spec hview with ⟨position, hposition, hview⟩ | ⟨-, hview⟩
  · rw [hshown] at hview
    have hbad := BorrowerHealthResponseV1.ofHealth_eq_liquidatable.mp hview.symm
    have hpos := debt_pos_of_liquidatable hrate hposition hbad
    have hscaled : 0 < (s.getScaledBorrow (trim borrower)).val := by
      apply Nat.pos_of_ne_zero
      intro hzero
      rw [hdebt, hzero, Nat.zero_mul, Nat.zero_div] at hpos
      exact Nat.lt_irrefl _ hpos
    have hdebt_ok : scaledToUnderlyingBorrow (s.getScaledBorrow (trim borrower)) r.borrowIndex =
        .ok p.underlyingDebt := scaledToUnderlying_of_eq hdebt
    exact liquidationTarget_gates haccess (addrValidate_eq_ok.mpr ⟨hp.address, rfl⟩) hr hscaled
      hdebt_ok hpos hcol hquoted hposition hbad
  · rw [hshown] at hview
    cases hview

/-- The gates of a liquidation that fills no offer open for the positions that are shown
as liquidatable, unless the closing price does not fit. -/
theorem liquidationTarget_isOk_iff {borrower : String} {seize : Amounts} (hs : ConfigSafety s)
    (hp : p.Valid deps s env b) (hr : AccruedTo s env.blockTime r)
    (hcol : (s.getBorrowerCollateral b).isEmpty = false) (hborrower : trim borrower = b)
    (haccess : checkLiquidationAccess s.contract info.sender = .ok ())
    (hfill : isDirectedFill (s.getDirectedSaleOffer b) env.blockTime seize = false) :
    IsOk (liquidationTarget deps s env info borrower seize) ↔
      p.figures.liquidationView.health = .liquidatable ∧
        closingPrice (s.getScaledBorrow b).val r.borrowIndex < 2 ^ 128 := by
  obtain ⟨r', hr', hdebt⟩ := hp.accrued
  obtain rfl := hr.unique hr'
  obtain ⟨stored, prices, quoted, -, hquoted, -, -, -, hview, -⟩ := hp.prices
  constructor
  · rintro ⟨t, ht⟩
    have valid := liquidationTarget_spec ht
    obtain ⟨position, hposition, hhealth⟩ := valid.health
    obtain ⟨ht_borrower, -, -, hshown_debt, hprice, ht_col, ht_quoted⟩ :=
      valid.determined hborrower hr hquoted
    have ht_debt : t.debtUnderlying = p.underlyingDebt := by
      apply Uint.ext
      rw [hshown_debt]
      exact hdebt.symm
    rw [ht_quoted, ht_col, ht_debt] at hposition
    have hbad : position.health = .liquidatable := by
      rcases hhealth with hdirected | hbad
      · rw [valid.directed_eq, valid.offer_eq, ht_borrower, hfill] at hdirected
        cases hdirected
      · exact hbad
    refine ⟨?_, ?_⟩
    · rcases healthFromPrices_spec hview with ⟨position', hposition', hshown⟩ | ⟨⟨e, he⟩, -⟩
      · rw [hposition] at hposition'
        rw [hshown, ← Except.ok.inj hposition', hbad]
        rfl
      · rw [hposition] at he
        cases he
    · rw [← hprice]
      exact t.debtPayoff.isLt
  · rintro ⟨hshown, hfits⟩
    have hpayoff : scaledToUnderlyingBorrowCeil (s.getScaledBorrow b) r.borrowIndex =
        .ok ⟨_, hfits⟩ := scaledToUnderlyingBorrowCeil_of_eq rfl
    obtain ⟨f, htarget⟩ := liquidationTarget_of_shown seize hs hp hr hcol hborrower haccess hshown
    rw [htarget]
    exact ⟨_, map_eq_ok.mpr ⟨_, hpayoff, rfl⟩⟩

/-- Where it does not fit, the liquidation ends with the overflow of that price. -/
theorem liquidationTarget_overflow {borrower : String} (seize : Amounts) (hs : ConfigSafety s)
    (hp : p.Valid deps s env b) (hr : AccruedTo s env.blockTime r)
    (hcol : (s.getBorrowerCollateral b).isEmpty = false) (hborrower : trim borrower = b)
    (haccess : checkLiquidationAccess s.contract info.sender = .ok ())
    (hshown : p.figures.liquidationView.health = .liquidatable)
    (hlarge : 2 ^ 128 ≤ closingPrice (s.getScaledBorrow b).val r.borrowIndex) :
    liquidationTarget deps s env info borrower seize =
      .error (illegalState "ceiled underlying borrow overflow") := by
  obtain ⟨r', hr', hdebt⟩ := hp.accrued
  obtain rfl := hr.unique hr'
  obtain ⟨f, htarget⟩ := liquidationTarget_of_shown seize hs hp hr hcol hborrower haccess hshown
  rw [htarget, scaledToUnderlyingBorrowCeil_overflow hdebt hlarge]
  rfl

/-! ## What cannot be seized -/

/-- The refusal to seize an asset without a usable quote. -/
def unpriceableSeizure (assetId : String) : ContractError := illegalArgument
  ("Cannot seize unpriceable collateral (no stored, zero, or over-stale oracle price): " ++ assetId)

section

variable {a : String}

theorem notFound_ne_unpriceableSeizure {m : String} : notFound m ≠ unpriceableSeizure a := by
  intro h
  cases h

theorem overflow_ne_unpriceableSeizure {m : String} :
    ContractError.overflow m ≠ unpriceableSeizure a := by
  intro h
  cases h

theorem overflowError_ne_unpriceableSeizure {op : OverflowOperation} :
    ContractError.overflowError op ≠ unpriceableSeizure a := by
  intro h
  cases h

theorem zeroPrice_ne_unpriceableSeizure :
    illegalArgument "Asset price is zero" ≠ unpriceableSeizure a := by
  intro h
  have hfirst := congrArg (fun m : String => m.toList.head?)
    (ContractError.illegalArgumentError.inj h)
  simp at hfirst

theorem valueUsd_errors (price : AssetPriceResponseV1) (amount : Uint128) :
    AllErrors (· ≠ unpriceableSeizure a) (price.valueUsd amount) := by
  simp [AssetPriceResponseV1.valueUsd, uint256, zeroPrice_ne_unpriceableSeizure,
    overflow_ne_unpriceableSeizure]

end

/-- Among the holdings, those that are shown as unpriceable are refused. -/
theorem addSeizedValue_refuses_iff {quoted : LiquidationPrices} {total : Decimal256} {a : String}
    {amount : Uint128} (hs : CollateralLedger s) (hpos : 0 < amount.val)
    (hheld : amount.val ≤ (amountOf (s.getBorrowerCollateral b) a).val) :
    addSeizedValue s.contract (s.getBorrowerCollateral b) quoted total (a, amount) =
        .error (unpriceableSeizure a) ↔
      a ∈ (s.getBorrowerCollateral b).keys.filter fun id => quoted.unpriceable.contains id := by
  have hsupported := hs.supported b a (by omega)
  have hkey : a ∈ (s.getBorrowerCollateral b).keys := by
    rw [Std.ExtTreeMap.mem_keys]
    by_contra hno
    rw [amountOf, Std.ExtTreeMap.getElem?_eq_none hno] at hheld
    exact absurd hpos (Nat.not_lt.mpr hheld)
  have hmem : a ∈ ((s.getBorrowerCollateral b).keys.filter fun id =>
      quoted.unpriceable.contains id) ↔ quoted.unpriceable.contains a = true := by
    rw [List.mem_filter]
    exact and_iff_right hkey
  rw [hmem]
  unfold addSeizedValue
  dsimp only
  rw [if_neg (Nat.ne_of_gt hpos), ensure, if_pos hsupported, ok_bind, ensure, if_pos hheld, ok_bind]
  cases hunpriceable : quoted.unpriceable.contains a with
  | true => simp [ensure, unpriceableSeizure, bind, Except.bind]
  | false =>
    have hall : AllErrors (· ≠ unpriceableSeizure a) (do
        let price ← okOr quoted.prices[a]? (notFound s!"Price of asset: {a}")
        let value ← price.valueUsd amount
        total.checkedAdd value) := by
      simp [Decimal256.checkedAdd, notFound_ne_unpriceableSeizure,
        overflowError_ne_unpriceableSeizure, valueUsd_errors]
    simp only [ensure, if_true, ok_bind, Bool.false_eq_true, iff_false]
    exact fun h => hall _ h rfl

/-! ## The price of clearing the debt -/

/-- The closing price is the debt, rounded up instead of down. -/
theorem closingPrice_eq_or (scaled : Nat) (bi : Decimal256) :
    closingPrice scaled bi = scaled * bi.atomics / decimalFractional ∨
      closingPrice scaled bi = scaled * bi.atomics / decimalFractional + 1 := by
  unfold closingPrice decimalFractional
  omega

/-- A payment clears a debt if and only if it covers the closing price. -/
theorem cleared_iff {sent payoff debt cancelled left : Uint128} {bi : Decimal256}
    (hpayoff : payoff.val = closingPrice debt.val bi)
    (h : scaledRepayFor (sent.min payoff) payoff debt bi = .ok cancelled)
    (hleft : left.val + cancelled.val = debt.val) :
    left.val = 0 ↔ closingPrice debt.val bi ≤ sent.val := by
  have hmin : (sent.min payoff).val = min sent.val payoff.val := Uint.min_val _ _
  constructor
  · intro hzero
    have hcovers := (cancelled_spec hpayoff h hleft).2 hzero
    omega
  · intro hle
    have hcovers : payoff.val ≤ (sent.min payoff).val := by omega
    rcases scaledRepayFor_spec h with ⟨-, rfl⟩ | ⟨hlt, -⟩
    · omega
    · omega

theorem repay_clears_iff {res : Response} {sent : Uint128} (hr : AccruedTo s env.blockTime r)
    (h : repay s env info = .ok (s', res))
    (hfunds : info.funds = [⟨s.contract.lendingDenom.name, sent⟩]) :
    (s'.getScaledBorrow info.sender).val = 0 ↔
      closingPrice (s.getScaledBorrow info.sender).val r.borrowIndex ≤ sent.val := by
  obtain ⟨amount, payoff, cancelled, left, total, r', hfunds', hr', hpayoff, hcancelled, -,
    hleft, -, hs', -⟩ := repay_spec h
  obtain rfl := hr.unique hr'
  have hsent : sent = amount := by
    rw [hfunds] at hfunds'
    simpa using hfunds'
  have hdebt : (s'.getScaledBorrow info.sender).val = left.val := by
    rw [hs']
    change ((s.setScaledBorrow info.sender left).getScaledBorrow info.sender).val = _
    rw [getScaledBorrow_save, if_pos rfl]
  rw [hdebt, hsent]
  exact cleared_iff hpayoff hcancelled hleft

theorem liquidation_clears_iff {t : LiquidationTarget} {plan : LiquidationPlan} {borrower : String}
    {seize : Amounts} (hr : AccruedTo s env.blockTime r)
    (ht : liquidationTarget deps s env info borrower seize = .ok t)
    (hplan : planLiquidation s.ownership s.contract info t seize = .ok plan) :
    plan.newScaledDebt.val = 0 ↔
      closingPrice (s.getScaledBorrow (trim borrower)).val r.borrowIndex ≤ plan.sent.val := by
  have valid := liquidationTarget_spec ht
  have planned := planLiquidation_spec hplan
  obtain rfl := hr.unique valid.accrued
  have hdebt : t.scaledDebt = s.getScaledBorrow (trim borrower) := by
    rw [valid.scaledDebt_eq, valid.borrower_eq]
  rw [← hdebt]
  have hcancelled := planned.scaledRepay_eq
  rw [planned.repay_eq] at hcancelled
  exact cleared_iff valid.payoff_eq hcancelled planned.newDebt_eq

/-! ## The two views -/

/-- A position that is healthy at the prices of a loan is not liquidatable. -/
theorem healthy_not_liquidatable (hs : ConfigSafety s) (hp : p.Valid deps s env b)
    (hhealthy : p.figures.borrowView.health = .healthy) :
    p.figures.liquidationView.health ≠ .liquidatable := by
  obtain ⟨stored, prices, quoted, -, -, hborrow, hquoted, hview, hview', -⟩ := hp.prices
  intro hbad
  rcases healthFromPrices_spec hview with ⟨position, hposition, hshown⟩ | ⟨-, hshown⟩
  · rcases healthFromPrices_spec hview' with ⟨position', hposition', hshown'⟩ | ⟨-, hshown'⟩
    · rw [hhealthy] at hshown
      rw [hbad] at hshown'
      have hok := BorrowerHealthResponseV1.ofHealth_eq_healthy.mp hshown.symm
      have hno := BorrowerHealthResponseV1.ofHealth_eq_liquidatable.mp hshown'.symm
      have hrates := hs.rates
      obtain ⟨hhealth, -⟩ := getBorrowerHealth_eq hposition
      obtain ⟨hhealth', -⟩ := getBorrowerHealth_eq hposition'
      rw [hhealth, getHealthFromLtv_healthy_iff hrates.margin_lt] at hok
      rw [hhealth', getHealthFromLtv_liquidatable_iff] at hno
      have hmargin := hrates.margin_lt
      have hone := hrates.liquidation_le
      rw [Decimal256.le_def] at hok hno hone
      rw [Decimal256.lt_def] at hmargin
      rw [Decimal256.atomics_one] at hone
      have hle := loanToValue_le rfl rfl hborrow hquoted hposition hposition' (by omega)
      omega
    · rw [hbad] at hshown'
      cases hshown'
  · rw [hhealthy] at hshown
    cases hshown

/-! ## The forecast -/

/-- What the answer says about a liquidation in the same block.  `price` is the price of
clearing the debt, which can exceed a `u128` only if the debt that is shown is the largest
one.  Then the liquidation stops at computing it, with the error of its overflow. -/
theorem position_forecasts_liquidation {answer : BorrowerPositionResponseV1}
    (hreach : Reachable s) (h : queryBorrowerPosition deps s env b = .ok answer)
    (hcol : (s.getBorrowerCollateral b).isEmpty = false) :
    ∃ (debt : Uint128) (price : Nat) (quoted : LiquidationPrices),
      answer.underlyingDebt = toString debt ∧
      getAssetPricesForLiquidation deps env.blockTime s.contract (s.getBorrowerCollateral b) =
        .ok quoted ∧
      (price = debt.val ∨ price = debt.val + 1) ∧
      (∀ info borrower seize, trim borrower = b →
        checkLiquidationAccess s.contract info.sender = .ok () →
        isDirectedFill (s.getDirectedSaleOffer b) env.blockTime seize = false →
        (IsOk (liquidationTarget deps s env info borrower seize) ↔
          answer.liquidationHealth = .liquidatable ∧ price < 2 ^ 128) ∧
        (answer.liquidationHealth = .liquidatable → 2 ^ 128 ≤ price →
          liquidationTarget deps s env info borrower seize =
            .error (illegalState "ceiled underlying borrow overflow"))) ∧
      (∀ a total amount, 0 < amount.val →
        amount.val ≤ (amountOf (s.getBorrowerCollateral b) a).val →
        (addSeizedValue s.contract (s.getBorrowerCollateral b) quoted total (a, amount) =
            .error (unpriceableSeizure a) ↔ a ∈ answer.liquidationUnpriceableCollateral)) ∧
      (∀ info borrower seize t, trim borrower = b →
        liquidationTarget deps s env info borrower seize = .ok t →
        t.quoted = quoted ∧
          ∀ plan, planLiquidation s.ownership s.contract info t seize = .ok plan →
            (plan.newScaledDebt.val = 0 ↔ price ≤ plan.sent.val)) ∧
      (∀ info s' res sent, info.sender = b → repay s env info = .ok (s', res) →
        info.funds = [⟨s.contract.lendingDenom.name, sent⟩] →
        ((s'.getScaledBorrow b).val = 0 ↔ price ≤ sent.val)) ∧
      ¬ (answer.health = .healthy ∧ answer.liquidationHealth = .liquidatable) := by
  simp only [queryBorrowerPosition, bind_eq_ok, pure_eq_ok] at h
  obtain ⟨p, hp, rfl⟩ := h
  have valid := borrowerPosition_spec hp hcol
  obtain ⟨r, hr, hdebt⟩ := valid.accrued
  obtain ⟨stored, prices, quoted, -, hquoted, -, -, -, -, hreported⟩ := valid.prices
  refine ⟨p.underlyingDebt, closingPrice (s.getScaledBorrow b).val r.borrowIndex, quoted, rfl,
    hquoted, ?_, ?_, ?_, ?_, ?_, ?_⟩
  · rw [hdebt]
    exact closingPrice_eq_or _ _
  · intro info borrower seize hborrower haccess hfill
    exact ⟨liquidationTarget_isOk_iff hreach.configSafety valid hr hcol hborrower haccess hfill,
      liquidationTarget_overflow seize hreach.configSafety valid hr hcol hborrower haccess⟩
  · intro a total amount hpos hheld
    show _ ↔ a ∈ p.figures.liquidationUnpriceableCollateral
    rw [hreported]
    exact addSeizedValue_refuses_iff hreach.collateralLedger hpos hheld
  · intro info borrower seize t hborrower ht
    have target := liquidationTarget_spec ht
    have hsame := target.quoted_eq
    rw [target.collateral_eq, target.borrower_eq, hborrower, hquoted] at hsame
    refine ⟨(Except.ok.inj hsame).symm, fun plan hplan => ?_⟩
    have hclears := liquidation_clears_iff hr ht hplan
    rw [hborrower] at hclears
    exact hclears
  · intro info s' res sent hsender hrepay hfunds
    have hclears := repay_clears_iff hr hrepay hfunds
    rw [hsender] at hclears
    exact hclears
  · rintro ⟨hhealthy, hbad⟩
    exact healthy_not_liquidatable hreach.configSafety valid hhealthy hbad

end

namespace Demo

/-- The liquidator, without any coins yet. -/
def keeper : MessageInfo := ⟨"liquidator", []⟩

/-- What the forecast assumes of Alice's position. -/
def forecastCheck (quotes : Deps) (now : Env) (s : PoolStorage) : Bool :=
  (queryBorrowerPosition quotes s now "alice").isOk &&
    decide ((s.getBorrowerCollateral "alice").isEmpty = false) &&
    (checkLiquidationAccess s.contract keeper.sender).isOk &&
    decide (isDirectedFill (s.getDirectedSaleOffer "alice") now.blockTime half = false)

theorem forecast_check {quotes : Deps} {now : Env} {s : PoolStorage}
    (h : forecastCheck quotes now s = true) :
    (∃ answer, queryBorrowerPosition quotes s now "alice" = .ok answer) ∧
      (s.getBorrowerCollateral "alice").isEmpty = false ∧
      checkLiquidationAccess s.contract keeper.sender = .ok () ∧
      isDirectedFill (s.getDirectedSaleOffer "alice") now.blockTime half = false := by
  simp only [forecastCheck, Bool.and_eq_true, decide_eq_true_eq, isOk_iff] at h
  obtain ⟨⟨⟨hanswer, hcol⟩, ⟨_, haccess⟩⟩, hfill⟩ := h
  exact ⟨hanswer, hcol, haccess, hfill⟩

/-- Gold has fallen to five dollars. -/
def fallenCheck (s : PoolStorage) : Bool :=
  forecastCheck (deps 5) (env 0) s &&
    (liquidationTarget (deps 5) s (env 0) keeper "alice" half).isOk

theorem fallen_ok :
    replayCheck (deps 10) (env 0) ⟨"owner", []⟩ msg opening fallenCheck = true := by
  decide +kernel

/-- The largest loan to the pool, and a debt that is worth a fraction less than `2 ^ 128`
coins a year later. -/
def largest : List Call :=
  [call "lender" [⟨"usd", ⟨2 ^ 128 - 1, by decide⟩⟩] .lend,
    call "alice" [⟨"gold", ⟨46763315151477093688483638309398307699, by decide⟩⟩] .addCollateral,
    call "alice" [] (.borrow ⟨280579890908862562130901829856389846193, by decide⟩)]

/-- The position is shown as liquidatable, and the gates do not open. -/
def cornerCheck (s : PoolStorage) : Bool :=
  forecastCheck (deps 10) (env 31881600) s &&
    (match queryBorrowerPosition (deps 10) s (env 31881600) "alice" with
      | .ok answer => decide (answer.liquidationHealth = .liquidatable)
      | .error _ => false) &&
    !(liquidationTarget (deps 10) s (env 31881600) keeper "alice" half).isOk

theorem corner_ok :
    replayCheck (deps 10) (env 0) ⟨"owner", []⟩ msg largest cornerCheck = true := by
  decide +kernel

end Demo

/-- Half of the gold can be sold off, because the position is shown as liquidatable. -/
theorem position_forecasts_liquidation_fallen :
    ∃ s answer, Reachable s ∧
      queryBorrowerPosition (Demo.deps 5) s (Demo.env 0) "alice" = .ok answer ∧
      IsOk (liquidationTarget (Demo.deps 5) s (Demo.env 0) Demo.keeper "alice" Demo.half) ∧
      answer.liquidationHealth = .liquidatable ∧ answer.health ≠ .healthy := by
  obtain ⟨s₀, ts, s, hstart, hrun, -, hcheck⟩ := exists_run Demo.fallen_ok
  simp only [Demo.fallenCheck, Bool.and_eq_true, isOk_iff] at hcheck
  obtain ⟨hcheck, htarget⟩ := hcheck
  obtain ⟨⟨answer, hanswer⟩, hcol, haccess, hfill⟩ := Demo.forecast_check hcheck
  have hreach : Reachable s := ⟨_, s₀, ts, hstart, hrun⟩
  obtain ⟨debt, price, quoted, -, -, -, hgates, -, -, -, hviews⟩ :=
    position_forecasts_liquidation hreach hanswer hcol
  have hgate := hgates Demo.keeper "alice" Demo.half (by decide +kernel) haccess hfill
  obtain ⟨hbad, -⟩ := hgate.1.mp htarget
  exact ⟨s, answer, hreach, hanswer, htarget, hbad, fun hhealthy => hviews ⟨hhealthy, hbad⟩⟩

/-- A debt that is worth a fraction less than `2 ^ 128` coins has no closing price.  It is
shown as liquidatable, and cannot be liquidated. -/
theorem position_forecasts_liquidation_largest :
    ∃ s answer, Reachable s ∧
      queryBorrowerPosition (Demo.deps 10) s (Demo.env 31881600) "alice" = .ok answer ∧
      (s.getBorrowerCollateral "alice").isEmpty = false ∧ trim "alice" = "alice" ∧
      checkLiquidationAccess s.contract Demo.keeper.sender = .ok () ∧
      isDirectedFill (s.getDirectedSaleOffer "alice") (Demo.env 31881600).blockTime Demo.half =
        false ∧
      answer.liquidationHealth = .liquidatable ∧
      ¬ IsOk (liquidationTarget (Demo.deps 10) s (Demo.env 31881600) Demo.keeper "alice"
        Demo.half) := by
  obtain ⟨s₀, ts, s, hstart, hrun, -, hcheck⟩ := exists_run Demo.corner_ok
  simp only [Demo.cornerCheck, Bool.and_eq_true, Bool.not_eq_true'] at hcheck
  obtain ⟨⟨hcheck, hshown⟩, htarget⟩ := hcheck
  obtain ⟨⟨answer, hanswer⟩, hcol, haccess, hfill⟩ := Demo.forecast_check hcheck
  rw [hanswer] at hshown
  refine ⟨s, answer, ⟨_, s₀, ts, hstart, hrun⟩, hanswer, hcol, by decide +kernel, haccess, hfill,
    of_decide_eq_true hshown, fun hok => ?_⟩
  rw [isOk_iff.mpr hok] at htarget
  cases htarget

end DemocratizedPrime
