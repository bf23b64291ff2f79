import DemocratizedPrime.Pool.Safety.OwnerGate
import DemocratizedPrime.Pool.Invariants.ConfigSafety
import DemocratizedPrime.Pool.Invariants.InterestTime
import DemocratizedPrime.Pool.Invariants.Solvency

/-!
# No instant liquidation

A borrower who takes coins out with a debt left passes the margin check
(`PoolStep.passedMarginCheck`).  A removal skips the check when the debt rounds down to
nothing, which a scaled debt never does, since the borrow index is at least one.

In the same block nobody else can then liquidate the position, short of filling an offer
of the borrower.  Four facts carry the argument.

* Messages of others leave the debt, the holdings and the borrow index alone
  (`Untouched.step`): interest has been charged to the block, and no second is left.
* A liquidation counts every quote that a borrow counts (`assetValue_le`), so the
  collateral is worth at least as much, and the debt at most as much.
* The loan-to-value ratio then does not rise (`ltvAtomics_le`).  The ratio of a position
  without any collateral value is one, which the margin check never accepts.
* No message lowers the liquidation rate, which lies above the margin rate.
-/

namespace DemocratizedPrime

open Result Transitions

/-! ## The margin check -/

/-- The debt is positive, and the position passes the margin check at the borrow prices. -/
def PassedMarginCheck (deps : Deps) (now : Timestamp) (s : PoolStorage) (b : Addr) : Prop :=
  ∃ debt prices position,
    scaledToUnderlyingBorrow (s.getScaledBorrow b) s.reserve.borrowIndex = .ok debt ∧
    0 < debt.val ∧
    getAssetPricesForBorrower deps now s.contract (s.getBorrowerCollateral b) = .ok prices ∧
    getBorrowerHealth s.contract s.contract.supportedCollateralAssets prices
      (s.getBorrowerCollateral b) debt = .ok position ∧
    validateBorrowerIsHealthy position s.contract = .ok ()

/-- With a borrow index of at least one, a scaled debt does not round down to nothing. -/
theorem floored_pos {scaled index : Nat} (hscaled : 0 < scaled)
    (hindex : decimalFractional ≤ index) : 0 < scaled * index / decimalFractional := by
  apply Nat.div_pos
  · calc decimalFractional ≤ index := hindex
      _ ≤ scaled * index := Nat.le_mul_of_pos_left index hscaled
  · decide

/-- After an accrual the borrow index is at least one. -/
theorem Reachable.accrued_borrowIndex {s : PoolStorage} {t : Timestamp} {r : ReserveStateV1}
    (h : Reachable s) (hr : AccruedTo s t r) : decimalFractional ≤ r.borrowIndex.atomics :=
  Nat.le_trans h.indexesPositive.borrow hr.borrowIndex_le

theorem borrow_passedMarginCheck {s s' : PoolStorage} {deps : Deps} {env : Env}
    {info : MessageInfo} {amount : Uint128} {res : Response} (hreach : Reachable s)
    (h : borrow deps s env info amount = .ok (s', res))
    (hdebt : 0 < (s'.getScaledBorrow info.sender).val) :
    PassedMarginCheck deps env.blockTime s' info.sender := by
  obtain ⟨r, -, debt, prices, position, total, -, hr, -, -, hloan, hprices, hposition, hhealthy,
    -, rfl, -⟩ := borrow_spec h
  obtain ⟨-, -, hafter⟩ := debtAfterBorrow_eq hloan
  have hscaled : PoolStorage.getScaledBorrow
      ((s.setScaledBorrow info.sender debt.newScaled).setReserveStateV1
        { r with totalScaledBorrow := total }) info.sender = debt.newScaled :=
    (PoolStorage.getScaledBorrow_set s _ _ _).trans (if_pos rfl)
  rw [hscaled] at hdebt
  refine ⟨debt.debtAfter, prices, position, ?_, ?_, hprices, hposition,
    validateBorrowerIsHealthy_eq_ok.mpr hhealthy⟩
  · rw [hscaled]
    exact scaledToUnderlying_of_eq hafter
  · rw [hafter]
    exact floored_pos hdebt (hreach.accrued_borrowIndex hr)

theorem removeCollateral_passedMarginCheck {s s' : PoolStorage} {deps : Deps} {env : Env}
    {info : MessageInfo} {toRemove : Amounts} {res : Response} (hreach : Reachable s)
    (h : removeCollateral deps s env info toRemove = .ok (s', res))
    (hdebt : 0 < (s'.getScaledBorrow info.sender).val) :
    PassedMarginCheck deps env.blockTime s' info.sender := by
  obtain ⟨r, debt, held, totals, -, -, -, hr, hfloor, hcheck, -, rfl, -⟩ :=
    removeCollateral_spec h
  have hpos : 0 < debt.val := by
    rw [hfloor]
    exact floored_pos hdebt (hreach.accrued_borrowIndex hr)
  have hheld : PoolStorage.getBorrowerCollateral
      { (s.setReserveStateV1 r).setBorrowerCollateral info.sender held with
        totalCollateralByAsset := totals } info.sender = held :=
    (PoolStorage.getBorrowerCollateral_set s _ _ _).trans (if_pos rfl)
  rw [checkHealthAfterRemoval, if_pos hpos] at hcheck
  simp only [bind_eq_ok] at hcheck
  obtain ⟨prices, hprices, position, hposition, hhealthy⟩ := hcheck
  rw [PassedMarginCheck, hheld]
  exact ⟨debt, prices, position, scaledToUnderlying_of_eq hfloor, hpos, hprices, hposition,
    hhealthy⟩

/-- The messages that take coins out for a borrower. -/
def ExecuteMsg.takesOut : ExecuteMsg → Bool
  | .borrow .. | .removeCollateral .. => true
  | _ => false

/-- Who takes coins out with a debt left has passed the margin check. -/
theorem PoolStep.passedMarginCheck {s s' : PoolStorage} {e : Event} (hreach : Reachable s)
    (h : PoolStep s e s') (hmsg : e.msg.takesOut = true)
    (hdebt : 0 < (s'.getScaledBorrow e.info.sender).val) :
    PassedMarginCheck e.deps e.env.blockTime s' e.info.sender := by
  have hd : dispatch e.deps s e.env e.info e.msg = .ok (s', e.response) := execute_eq_ok h
  cases hm : e.msg with
  | borrow amount =>
    rw [hm] at hd
    exact borrow_passedMarginCheck hreach hd hdebt
  | removeCollateral toRemove =>
    rw [hm] at hd
    exact removeCollateral_passedMarginCheck hreach hd hdebt
  | _ =>
    rw [hm] at hmsg
    cases hmsg

/-! ## Messages of others -/

/-- A message of somebody else in the block at `now` that does not liquidate `b`. -/
structure ByOther (b : Addr) (now : Timestamp) (e : Event) : Prop where
  sender : e.info.sender ≠ b
  block : e.env.blockTime = now
  notLiquidated : ∀ borrower seize, e.msg = .liquidate borrower seize → trim borrower ≠ b

/-- Messages of others keep the debt and the holdings. -/
theorem PoolStep.position_eq {s s' : PoolStorage} {e : Event} {b : Addr} {now : Timestamp}
    (h : PoolStep s e s') (hother : ByOther b now e) :
    s'.getScaledBorrow b = s.getScaledBorrow b ∧
      s'.getBorrowerCollateral b = s.getBorrowerCollateral b := by
  have hdebt (d : Uint128) : (s.setScaledBorrow e.info.sender d).getScaledBorrow b =
      s.getScaledBorrow b :=
    (PoolStorage.getScaledBorrow_set s _ _ _).trans (if_neg hother.sender)
  have hheld (m : Amounts) : (s.setBorrowerCollateral e.info.sender m).getBorrowerCollateral b =
      s.getBorrowerCollateral b :=
    (PoolStorage.getBorrowerCollateral_set s _ _ _).trans (if_neg hother.sender)
  cases h.effect with
  | neutral _ _ change =>
    unfold PoolStorage.getScaledBorrow PoolStorage.getBorrowerCollateral
    rw [change.scaledBorrow, change.borrowerCollateral]
    exact ⟨rfl, rfl⟩
  | borrow => exact ⟨hdebt _, rfl⟩
  | repay => exact ⟨hdebt _, rfl⟩
  | addCollateral => exact ⟨rfl, hheld _⟩
  | removeCollateral => exact ⟨rfl, hheld _⟩
  | @liquidate borrower seize outgoing totals t p r' offers msg target =>
    have hne : t.borrower ≠ b := by
      rw [target.borrower_eq]
      exact hother.notLiquidated borrower seize msg
    exact ⟨(PoolStorage.getScaledBorrow_set s _ _ _).trans (if_neg hne),
      (PoolStorage.getBorrowerCollateral_set s _ _ _).trans (if_neg hne)⟩
  | _ => exact ⟨rfl, rfl⟩

/-- A step within the second of the last accrual keeps the borrow index, and stays within
that second. -/
theorem PoolStep.sameSecond {s s' : PoolStorage} {e : Event} (h : PoolStep s e s')
    (helapsed : timeElapsedSeconds s.reserve.lastUpdatedAt e.env.blockTime = 0) :
    s'.reserve.borrowIndex = s.reserve.borrowIndex ∧
      s'.reserve.lastUpdatedAt = s.reserve.lastUpdatedAt := by
  rcases h.accrual with ⟨-, r, hr, hindex, hlast, -⟩ | ⟨-, hreserve, -⟩
  · rw [hindex, hlast, AccruedTo.sameSecond hr helapsed]
    exact ⟨rfl, rfl⟩
  · rw [hreserve]
    exact ⟨rfl, rfl⟩

/-- What the messages of others in the block at `now` leave of the state `s₁` in which
`b` passed the check. -/
structure Untouched (b : Addr) (now : Timestamp) (s₁ s : PoolStorage) : Prop where
  debt : s.getScaledBorrow b = s₁.getScaledBorrow b
  collateral : s.getBorrowerCollateral b = s₁.getBorrowerCollateral b
  borrowIndex : s.reserve.borrowIndex = s₁.reserve.borrowIndex
  elapsed : timeElapsedSeconds s.reserve.lastUpdatedAt now = 0
  lendingDenom : s.contract.lendingDenom = s₁.contract.lendingDenom
  liquidationRate : s₁.contract.liquidationRate ≤ s.contract.liquidationRate

theorem Untouched.step {b : Addr} {now : Timestamp} {s₁ s s' : PoolStorage} {e : Event}
    (h : Untouched b now s₁ s) (hother : ByOther b now e) (hstep : PoolStep s e s') :
    Untouched b now s₁ s' := by
  obtain ⟨hdebt, hheld⟩ := hstep.position_eq hother
  have helapsed : timeElapsedSeconds s.reserve.lastUpdatedAt e.env.blockTime = 0 := by
    rw [hother.block]
    exact h.elapsed
  obtain ⟨hindex, hlast⟩ := hstep.sameSecond helapsed
  exact {
    debt := hdebt.trans h.debt
    collateral := hheld.trans h.collateral
    borrowIndex := hindex.trans h.borrowIndex
    elapsed := by
      rw [hlast]
      exact h.elapsed
    lendingDenom := hstep.lendingDenom_eq.trans h.lendingDenom
    liquidationRate := Nat.le_trans h.liquidationRate hstep.liquidationRate_le }

/-- Who takes coins out leaves no second of the block to charge. -/
theorem PoolStep.elapsed_takesOut {s s' : PoolStorage} {e : Event} (h : PoolStep s e s')
    (hmsg : e.msg.takesOut = true) :
    timeElapsedSeconds s'.reserve.lastUpdatedAt e.env.blockTime = 0 := by
  have hkind : e.msg.accruesInterest = true := by
    cases hm : e.msg with
    | borrow => rfl
    | removeCollateral => rfl
    | _ =>
      rw [hm] at hmsg
      cases hmsg
  rcases h.accrual with ⟨-, r, hr, -, hlast, -⟩ | ⟨hnot, -⟩
  · rw [hlast]
    exact AccruedTo.elapsed_eq_zero hr
  · rw [hkind] at hnot
    cases hnot

/-! ## The prices of a borrow and of a liquidation -/

section Prices

variable {stored prices : PriceMap} {now : Timestamp} {contract : ContractStateV1}
  {collateral : Amounts} {q : LiquidationPrices}

/-- A fresh, non-zero quote is usable for liquidation, however short the window. -/
theorem isUnpriceable_of_fresh {maxSecs : Nat} {a : String} {p : AssetPriceResponseV1}
    (hp : stored[a]? = some p) (hfresh : p.isStale now = false) :
    isUnpriceable stored now maxSecs a = p.isZeroPrice := by
  unfold isUnpriceable liquidationPriceTooOld
  rw [hp]
  simp [hfresh]

/-- The prices of a borrow are stored quotes that are fresh. -/
theorem BorrowPrices.stored_fresh {lendingDenom : String}
    (h : BorrowPrices stored lendingDenom now prices) {a : String} {p : AssetPriceResponseV1}
    (hp : prices[a]? = some p) : stored[a]? = some p ∧ p.isStale now = false := by
  by_cases ha : a = lendingDenom
  · obtain ⟨p', hstored, hfresh, hp'⟩ := h.lending
    rw [← ha, hp] at hp'
    rw [Option.some.inj hp', ha]
    exact ⟨hstored, hfresh⟩
  · obtain ⟨hstored, hfresh, -⟩ := (h.fresh a ha p).mp hp
    exact ⟨hstored, hfresh⟩

/-- A liquidation values each holding at least as high as a borrow does. -/
theorem assetValue_le (hborrow : BorrowPrices stored contract.lendingDenom.name now prices)
    (hquoted : q.Valid stored now contract collateral) (supported : List CollateralAssetV1)
    (a : String) (amount : Nat) :
    assetValue prices supported a amount ≤ assetValue q.prices supported a amount := by
  cases hp : prices[a]? with
  | none =>
    have hzero : assetValue prices supported a amount = 0 := by
      unfold assetValue
      rw [hp]
    rw [hzero]
    exact Nat.zero_le _
  | some p =>
    obtain ⟨hstored, hfresh⟩ := hborrow.stored_fresh hp
    by_cases hzero : p.isZeroPrice = true
    · have hworthless : assetValue prices supported a amount = 0 := by
        unfold assetValue
        rw [hp]
        simp [isZeroPrice_valueAtomics hzero]
      rw [hworthless]
      exact Nat.zero_le _
    · have hpriced : q.unpriceable.contains a ≠ true := by
        intro hu
        have hno := ((hquoted.unpriceable a).mp hu).2
        rw [isUnpriceable_of_fresh hstored hfresh] at hno
        exact hzero hno
      have hsame : q.prices[a]? = prices[a]? := by
        rw [hquoted.prices a, if_neg hpriced, hp]
        exact hstored
      unfold assetValue
      rw [hsame]

/-- So the collateral is worth at least as much to a liquidation, -/
theorem collateralValue_le (hborrow : BorrowPrices stored contract.lendingDenom.name now prices)
    (hquoted : q.Valid stored now contract collateral) (supported : List CollateralAssetV1) :
    collateralValue prices supported collateral ≤ collateralValue q.prices supported collateral :=
  List.sum_le_sum fun entry _ => assetValue_le hborrow hquoted supported entry.1 entry.2.val

/-- and the debt at most as much. -/
theorem debtValue_le (hborrow : BorrowPrices stored contract.lendingDenom.name now prices)
    (hquoted : q.Valid stored now contract collateral) (debt : Nat) :
    debtValue q.prices contract.lendingDenom.name debt ≤
      debtValue prices contract.lendingDenom.name debt := by
  obtain ⟨p, hstored, -, hp⟩ := hborrow.lending
  unfold debtValue
  rw [hquoted.prices, hstored, hp]
  split
  · exact Nat.zero_le _
  · rename_i p' hp'
    split at hp'
    · cases hp'
    · rw [Option.some.inj hp']

end Prices

/-- At the prices of a liquidation a ratio below one is no higher than at those of a
borrow, also under a contract state that differs in other settings. -/
theorem loanToValue_le {stored prices : PriceMap} {now : Timestamp} {c c' : ContractStateV1}
    {col : Amounts} {q : LiquidationPrices} {debt : Uint128} {position position' : BorrowerHealth}
    (hlending : c'.lendingDenom = c.lendingDenom)
    (hsupported : c'.supportedCollateralAssets = c.supportedCollateralAssets)
    (hborrow : BorrowPrices stored c.lendingDenom.name now prices)
    (hquoted : q.Valid stored now c' col)
    (h : getBorrowerHealth c c.supportedCollateralAssets prices col debt = .ok position)
    (h' : getBorrowerHealth c' c'.supportedCollateralAssets q.prices col debt = .ok position')
    (hlt : position.loanToValue.atomics < decimalFractional) :
    position'.loanToValue.atomics ≤ position.loanToValue.atomics := by
  rw [← hlending] at hborrow
  have hcollateral := collateralValue_le hborrow hquoted c.supportedCollateralAssets
  have hdebt := debtValue_le hborrow hquoted debt.val
  have hltv := (getBorrowerHealth_eq h).2
  have hltv' := (getBorrowerHealth_eq h').2
  rw [hlending] at hdebt hltv'
  rw [hltv] at hlt ⊢
  rw [hltv', hsupported]
  exact ltvAtomics_le hdebt hcollateral hlt

/-! ## No liquidation in the same block -/

/-- The oracle of `s₂` is that of `s₁`, it gives the two calls the same answers, and the
list of collateral assets is the same. -/
structure SameMarket (s₁ s₂ : PoolStorage) (deps₁ deps₂ : Deps) : Prop where
  oracle : s₂.contract.priceOracleAddress = s₁.contract.priceOracleAddress
  prices : ∀ a, deps₂.oraclePrice s₁.contract.priceOracleAddress a =
    deps₁.oraclePrice s₁.contract.priceOracleAddress a
  supported : s₂.contract.supportedCollateralAssets = s₁.contract.supportedCollateralAssets

/-- A borrower who passed the check is not liquidatable in the same market, at the prices
of a liquidation. -/
theorem not_liquidatable {b : Addr} {now : Timestamp} {s₁ s₂ : PoolStorage}
    {deps₁ deps₂ : Deps} {q : LiquidationPrices} {debt : Uint128} {position : BorrowerHealth}
    (hrates : RatesValid s₁.contract.marginRate s₁.contract.liquidationRate
      s₁.contract.liquidationBonusRate)
    (hpassed : PassedMarginCheck deps₁ now s₁ b) (huntouched : Untouched b now s₁ s₂)
    (hmarket : SameMarket s₁ s₂ deps₁ deps₂)
    (hdebt : debt.val = (s₂.getScaledBorrow b).val * s₂.reserve.borrowIndex.atomics /
      decimalFractional)
    (hquoted : getAssetPricesForLiquidation deps₂ now s₂.contract
      (s₂.getBorrowerCollateral b) = .ok q)
    (hposition : getBorrowerHealth s₂.contract s₂.contract.supportedCollateralAssets q.prices
      (s₂.getBorrowerCollateral b) debt = .ok position) :
    position.health ≠ .liquidatable := by
  obtain ⟨debt₁, prices, position₁, hdebt₁, -, hprices, hposition₁, hhealthy⟩ := hpassed
  obtain ⟨stored₂, hstored₂, quoted⟩ := getAssetPricesForLiquidation_spec hquoted
  simp only [getAssetPricesForBorrower, bind_eq_ok] at hprices
  obtain ⟨stored, hstored, hdrop⟩ := hprices
  have borrowPrices := dropUnpriceableCollateral_spec hdrop
  have hlending := huntouched.lendingDenom
  -- Both calls read the same quotes.
  have hsame : stored₂ = stored := by
    refine Std.ExtTreeMap.ext_getElem? fun a => ?_
    rw [getPriceFromOracle_getElem? hstored a, getPriceFromOracle_getElem? hstored₂ a,
      pricedAssetIds, pricedAssetIds, hlending, huntouched.collateral, hmarket.oracle]
    unfold Deps.storedQuote
    rw [hmarket.prices]
  have hdebtSame : debt = debt₁ := by
    apply Uint.ext
    rw [hdebt, huntouched.debt, huntouched.borrowIndex]
    exact (scaledToUnderlying_eq hdebt₁).symm
  rw [hsame, huntouched.collateral] at quoted
  rw [huntouched.collateral, hdebtSame] at hposition
  obtain ⟨hhealth₁, -⟩ := getBorrowerHealth_eq hposition₁
  obtain ⟨hhealth, -⟩ := getBorrowerHealth_eq hposition
  rw [validateBorrowerIsHealthy_eq_ok, hhealth₁,
    getHealthFromLtv_healthy_iff hrates.margin_lt] at hhealthy
  have hmargin := hrates.margin_lt
  have hone := hrates.liquidation_le
  have hrate := huntouched.liquidationRate
  rw [Decimal256.le_def] at hhealthy hone hrate
  rw [Decimal256.lt_def] at hmargin
  rw [Decimal256.atomics_one] at hone
  have hle := loanToValue_le huntouched.lendingDenom hmarket.supported borrowPrices quoted
    hposition₁ hposition (by omega)
  intro hbad
  rw [hhealth, getHealthFromLtv_liquidatable_iff, Decimal256.le_def] at hbad
  omega

/-- A seizure within an offer is not empty, and the offer lists all of it. -/
theorem isSeizeWithinOffer_spec {offer seize : Amounts}
    (h : isSeizeWithinOffer offer seize = true) :
    (normalizeSeizeMap seize).isEmpty = false ∧
      ∀ a, (amountOf seize a).val ≤ (amountOf offer a).val := by
  unfold isSeizeWithinOffer at h
  rw [Bool.and_eq_true, Bool.not_eq_true', List.all_eq_true] at h
  obtain ⟨hempty, hlisted⟩ := h
  refine ⟨hempty, fun a => ?_⟩
  rw [← normalizeSeizeMap_amountOf]
  cases ha : (normalizeSeizeMap seize)[a]? with
  | none =>
    have hnone : amountOf (normalizeSeizeMap seize) a = 0 := by
      unfold amountOf
      rw [ha]
      rfl
    rw [hnone, Uint.val_zero]
    exact Nat.zero_le _
  | some amount =>
    have hentry := hlisted (a, amount) (Std.ExtTreeMap.mem_toList_iff_getElem?_eq_some.mpr ha)
    rw [Option.any_eq_true] at hentry
    obtain ⟨listed, hlist, hle⟩ := hentry
    unfold amountOf
    rw [ha, hlist]
    exact of_decide_eq_true hle

/-- Whoever takes coins out with a debt left has passed the margin check; and after any
messages of others in the same block, a liquidation of this borrower in the same market
fills a live offer that lists all of the seizure. -/
theorem no_instant_liquidation {s s₁ : PoolStorage} {e : Event} (hreach : Reachable s)
    (hstep : PoolStep s e s₁) (hmsg : e.msg.takesOut = true)
    (hdebt : 0 < (s₁.getScaledBorrow e.info.sender).val) :
    PassedMarginCheck e.deps e.env.blockTime s₁ e.info.sender ∧
      ∀ (ts : List (Transition PoolStorage Event)) (s₂ s₃ : PoolStorage) (l : Event)
        (borrower : String) (seize : Amounts),
        Run PoolStep s₁ ts s₂ → (∀ x ∈ ts, ByOther e.info.sender e.env.blockTime x.label) →
        PoolStep s₂ l s₃ → l.msg = .liquidate borrower seize → trim borrower = e.info.sender →
        l.env.blockTime = e.env.blockTime → SameMarket s₁ s₂ e.deps l.deps →
        ∃ offer, s₂.getDirectedSaleOffer e.info.sender = some offer ∧
          offer.isLive e.env.blockTime = true ∧
          (normalizeSeizeMap seize).isEmpty = false ∧
          ∀ a, (amountOf seize a).val ≤ (amountOf offer.amounts a).val := by
  have hpassed := hstep.passedMarginCheck hreach hmsg hdebt
  refine ⟨hpassed, fun ts s₂ s₃ l borrower seize run hothers hliq hl hborrower htime hmarket => ?_⟩
  have hstart : Untouched e.info.sender e.env.blockTime s₁ s₁ :=
    ⟨rfl, rfl, rfl, hstep.elapsed_takesOut hmsg, rfl, Nat.le_refl _⟩
  have huntouched : Untouched e.info.sender e.env.blockTime s₁ s₂ :=
    run.invariant_of_transitions (P := fun t => ByOther e.info.sender e.env.blockTime t.label)
      (fun _ _ _ h hother => h.step hother) hothers hstart
  have hd : dispatch l.deps s₂ l.env l.info l.msg = .ok (s₃, l.response) := execute_eq_ok hliq
  rw [hl] at hd
  have hliquidate : liquidate l.deps s₂ l.env l.info borrower seize = .ok (s₃, l.response) := hd
  obtain ⟨t, -, htarget, -, -⟩ := liquidate_stages hliquidate
  have target := liquidationTarget_spec htarget
  have hindex : t.reserve = s₂.reserve :=
    target.accrued.sameSecond (by rw [htime]; exact huntouched.elapsed)
  have hb : t.borrower = e.info.sender := target.borrower_eq.trans hborrower
  obtain ⟨position, hposition, hhealth⟩ := target.health
  have hquoted := target.quoted_eq
  have hfloor := target.debt_eq
  rw [target.scaledDebt_eq, hindex, hb] at hfloor
  rw [target.collateral_eq, hb] at hposition
  rw [target.collateral_eq, hb, htime] at hquoted
  have hsound := not_liquidatable (hreach.step hstep).configSafety.rates hpassed huntouched
    hmarket hfloor hquoted hposition
  have hfill : isDirectedFill (s₂.getDirectedSaleOffer e.info.sender) e.env.blockTime seize =
      true := by
    rcases hhealth with hfill | hbad
    · rw [target.directed_eq, target.offer_eq, hb, htime] at hfill
      exact hfill
    · exact absurd hbad hsound
  unfold isDirectedFill at hfill
  rw [Option.any_eq_true] at hfill
  obtain ⟨offer, hoffer, hlive⟩ := hfill
  rw [Bool.and_eq_true] at hlive
  exact ⟨offer, hoffer, hlive.1, isSeizeWithinOffer_spec hlive.2⟩

namespace Demo

/-- Alice borrows, and offers ten units of her gold for sale, for an hour. -/
def offering : List Call :=
  [call "lender" [⟨"usd", 1000⟩] .lend, call "alice" [⟨"gold", 100⟩] .addCollateral,
    call "alice" [] (.borrow 300), call "alice" [] (.adjustDirectedCollateralSale
      ((∅ : Std.ExtTreeMap String Int128).insert "gold" ⟨10, by decide⟩)
      (env 3600).blockTime 1)]

/-- Half of what Alice offers. -/
def half : Amounts := (∅ : Amounts).insert "gold" 5

/-- In one block Alice borrows more, Bob lends, and the liquidator buys half of the offer. -/
def fill (s : PoolStorage) :
    ContractResult ((PoolStorage × Event) × (PoolStorage × Event) × (PoolStorage × Event)) := do
  let x₁ ← fire (call "alice" [] (.borrow 200)) s
  let x₂ ← fire (call "bob" [⟨"usd", 10⟩] .lend) x₁.1
  let x₃ ← fire (call "liquidator" [⟨"usd", 50⟩] (.liquidate "alice" half)) x₂.1
  return (x₁, x₂, x₃)

/-- Alice has a debt, and Bob's loan leaves the market as it is. -/
def fillCheck (s : PoolStorage) : Bool :=
  match fill s with
  | .ok (x₁, x₂, _) =>
    decide (0 < (x₁.1.getScaledBorrow "alice").val ∧
      x₂.1.contract.priceOracleAddress = x₁.1.contract.priceOracleAddress ∧
      x₂.1.contract.supportedCollateralAssets = x₁.1.contract.supportedCollateralAssets)
  | .error _ => false

theorem fill_ok :
    replayCheck (deps 10) (env 0) ⟨"owner", []⟩ msg offering fillCheck = true := by
  decide +kernel

end Demo

/-- The liquidator may buy from Alice in the block of her loan, within her offer. -/
theorem no_instant_liquidation_fill :
    ∃ s₁ s₂ s₃ l offer, PoolStep s₂ l s₃ ∧ l.msg = .liquidate "alice" Demo.half ∧
      PassedMarginCheck (Demo.deps 10) (Demo.env 0).blockTime s₁ "alice" ∧
      s₂.getDirectedSaleOffer "alice" = some offer ∧
      ∀ a, (amountOf Demo.half a).val ≤ (amountOf offer.amounts a).val := by
  obtain ⟨s₀, ts, s, hdeployed, run, -, hcheck⟩ := exists_run Demo.fill_ok
  have hreach : Reachable s := ⟨_, s₀, ts, hdeployed, run⟩
  unfold Demo.fillCheck at hcheck
  split at hcheck
  · rename_i x₁ x₂ x₃ hfill
    obtain ⟨hdebt, horacle, hsupported⟩ := of_decide_eq_true hcheck
    simp only [Demo.fill, bind_eq_ok, pure_eq_ok, Prod.mk.injEq] at hfill
    obtain ⟨y₁, h₁, y₂, h₂, y₃, h₃, rfl, rfl, rfl⟩ := hfill
    obtain ⟨hborrow, he₁⟩ := fire_step h₁
    obtain ⟨hlend, he₂⟩ := fire_step h₂
    obtain ⟨hliquidate, he₃⟩ := fire_step h₃
    have hsender : y₁.2.info.sender = "alice" := by rw [he₁]; rfl
    have hmsg : y₃.2.msg = .liquidate "alice" Demo.half := by rw [he₃]; rfl
    have hother : ByOther y₁.2.info.sender y₁.2.env.blockTime y₂.2 := by
      refine ⟨?_, by rw [he₁, he₂]; rfl, fun _ _ hm => ?_⟩
      · rw [he₁, he₂]
        decide
      · rw [he₂] at hm
        cases hm
    obtain ⟨hpassed, hlater⟩ := no_instant_liquidation hreach hborrow (by rw [he₁]; rfl)
      (by rw [hsender]; exact hdebt)
    obtain ⟨offer, hoffer, -, -, hlisted⟩ := hlater _ _ _ _ _ _ (Run.single hlend)
      (by simpa using hother) hliquidate hmsg (by rw [hsender]; decide +kernel)
      (by rw [he₁, he₃]; rfl) ⟨horacle, fun a => by rw [he₁, he₃]; rfl, hsupported⟩
    rw [he₁] at hpassed
    rw [hsender] at hoffer
    exact ⟨y₁.1, y₂.1, y₃.1, y₃.2, offer, hliquidate, hmsg, hpassed, hoffer, hlisted⟩
  · cases hcheck

end DemocratizedPrime
