import DemocratizedPrime.Pool.Rates

/-!
# Prices and health

Two filters turn the oracle's answer into the prices that the pool acts on.
Borrowing counts a fresh, non-zero quote only.  Liquidation also counts a quote
that expired less than `maxLiquidationStalenessSeconds` ago, and names the
holdings that it cannot price.  In both, the lending denomination must have a
usable quote.

The loan-to-value ratio is the debt over the haircutted collateral, both in USD.
A holding without a price counts as nothing.  `collateralValue` is the
haircutted value as a plain sum, and `calculateTotalCollateralValueUsd_eq` says
that the loop of the source computes it.
-/

namespace DemocratizedPrime

open Result TreeMap

/-! ## Prices for borrowing -/

/-- The assets of a price query: the lending denomination and the holdings. -/
def pricedAssetIds (contract : ContractStateV1) (collateral : Amounts) : List String :=
  contract.lendingDenom.name :: collateral.keys

/-- Keep the lending denomination and the collateral with a fresh, non-zero quote. -/
def dropUnpriceableCollateral (prices : PriceMap) (lendingDenom : String)
    (blockTime : Timestamp) : ContractResult PriceMap := do
  let lendingPrice ← okOr prices[lendingDenom]? (notFound s!"Price of asset: {lendingDenom}")
  ensure (lendingPrice.isStale blockTime = false)
    (.stalePriceDataError lendingDenom lendingPrice.expiredAt)
  return prices.filter fun id p =>
    id == lendingDenom || !(p.isStale blockTime || p.isZeroPrice)

/-- The prices for a loan: a fresh one of the lent denom, and of the collateral those that are
fresh and not zero. -/
def getAssetPricesForBorrower (deps : Deps) (blockTime : Timestamp)
    (contract : ContractStateV1) (collateral : Amounts) : ContractResult PriceMap := do
  let priceData ← getPriceFromOracle deps contract.priceOracleAddress
    (pricedAssetIds contract collateral) true
  dropUnpriceableCollateral priceData contract.lendingDenom.name blockTime

/-- One round of the loop of `require_fresh_asset_prices`. -/
def requireFreshPrice (prices : PriceMap) (blockTime : Timestamp) (assetId : String) :
    ContractResult Unit := do
  let price ← okOr prices[assetId]? (notFound s!"Price of asset: {assetId}")
  ensure (price.isStale blockTime = false) (.stalePriceDataError assetId price.expiredAt)

/-- Each asset has a stored quote that is not stale. -/
def requireFreshAssetPrices (deps : Deps) (blockTime : Timestamp) (oracle : Addr)
    (assets : List String) : ContractResult PriceMap :=
  if assets.isEmpty then return ∅
  else do
    let priceData ← getPriceFromOracle deps oracle assets false
    assets.forM (requireFreshPrice priceData blockTime)
    return priceData

/-! ## Prices for liquidation -/

/-- Expired at least `maxSecs` ago. -/
def liquidationPriceTooOld (price : AssetPriceResponseV1) (now : Timestamp) (maxSecs : Nat) :
    Bool :=
  price.isStale now && decide (maxSecs ≤ now.seconds - price.expirationEpochSeconds)

/-- No stored quote, a zero quote, or a quote that is too old. -/
def isUnpriceable (priceData : PriceMap) (now : Timestamp) (maxSecs : Nat) (assetId : String) :
    Bool :=
  match priceData[assetId]? with
  | none => true
  | some p => p.isZeroPrice || liquidationPriceTooOld p now maxSecs

/-- The prices of a liquidation, the holdings without one, and the quotes of
these holdings that are too old but not zero. -/
structure LiquidationPrices where
  prices : PriceMap
  unpriceable : List String
  unpriceableLastKnown : PriceMap

/-- The acted-on prices together with the retained ones. -/
def LiquidationPrices.pricesWithUnpriceableLastKnown (q : LiquidationPrices) : PriceMap :=
  q.prices ∪ q.unpriceableLastKnown

/-- Leave out the collateral without a usable price, and insist on one for the lent denom. -/
def dropUnpriceableForLiquidation (priceData : PriceMap) (blockTime : Timestamp)
    (contract : ContractStateV1) (collateral : Amounts) : ContractResult LiquidationPrices := do
  let lendingDenom := contract.lendingDenom.name
  let maxSecs := contract.maxLiquidationStalenessSeconds
  let lendingPrice ← okOr priceData[lendingDenom]?
    (notFound s!"Price of lending denom is missing: {lendingDenom}")
  ensure (liquidationPriceTooOld lendingPrice blockTime maxSecs = false)
    (.stalePriceDataError lendingDenom lendingPrice.expiredAt)
  let held := collateral.filter fun _ amount => amount.val != 0
  let unpriceable := held.keys.filter (isUnpriceable priceData blockTime maxSecs)
  return {
    prices := priceData.filter fun id _ => !unpriceable.contains id
    unpriceable
    unpriceableLastKnown := priceData.filter fun id p =>
      held.contains id && !p.isZeroPrice && liquidationPriceTooOld p blockTime maxSecs }

/-- The prices for a liquidation: not older than the configured staleness. -/
def getAssetPricesForLiquidation (deps : Deps) (blockTime : Timestamp)
    (contract : ContractStateV1) (collateral : Amounts) : ContractResult LiquidationPrices := do
  let priceData ← getPriceFromOracle deps contract.priceOracleAddress
    (pricedAssetIds contract collateral) true
  dropUnpriceableForLiquidation priceData blockTime contract collateral

/-! ## What the filters keep -/

theorem amountOf_ne_zero_iff {m : Amounts} {a : String} :
    (amountOf m a).val ≠ 0 ↔ ∃ v, m[a]? = some v ∧ v.val ≠ 0 := by
  unfold amountOf
  cases m[a]? <;> simp

/-- The prices of a borrow: the fresh, non-zero quotes among the stored ones. -/
structure BorrowPrices (stored : PriceMap) (lendingDenom : String) (now : Timestamp)
    (prices : PriceMap) : Prop where
  lending : ∃ p, stored[lendingDenom]? = some p ∧ p.isStale now = false ∧
    prices[lendingDenom]? = some p
  fresh : ∀ a, a ≠ lendingDenom → ∀ p, prices[a]? = some p ↔
    stored[a]? = some p ∧ p.isStale now = false ∧ p.isZeroPrice = false

theorem dropUnpriceableCollateral_spec {stored prices : PriceMap} {lendingDenom : String}
    {now : Timestamp} (h : dropUnpriceableCollateral stored lendingDenom now = .ok prices) :
    BorrowPrices stored lendingDenom now prices := by
  simp only [dropUnpriceableCollateral, bind_eq_ok, okOr_eq_ok, ensure_eq_ok, exists_const,
    pure_eq_ok] at h
  obtain ⟨p, hp, hfresh, rfl⟩ := h
  refine ⟨⟨p, hp, hfresh, ?_⟩, fun a ha q => ?_⟩
  · rw [Std.ExtTreeMap.getElem?_filter', hp]
    simp
  · rw [Std.ExtTreeMap.getElem?_filter', Option.filter_eq_some_iff]
    simp [ha]

/-- The prices of a liquidation: what is unpriceable, what is left, and what is retained
of the unpriceable. -/
structure LiquidationPrices.Valid (stored : PriceMap) (now : Timestamp)
    (contract : ContractStateV1) (collateral : Amounts) (q : LiquidationPrices) : Prop where
  lending : ∃ p, stored[contract.lendingDenom.name]? = some p ∧
    liquidationPriceTooOld p now contract.maxLiquidationStalenessSeconds = false
  unpriceable : ∀ a, q.unpriceable.contains a = true ↔ (amountOf collateral a).val ≠ 0 ∧
    isUnpriceable stored now contract.maxLiquidationStalenessSeconds a = true
  prices : ∀ a, q.prices[a]? = if q.unpriceable.contains a = true then none else stored[a]?
  lastKnown : ∀ a p, q.unpriceableLastKnown[a]? = some p ↔
    stored[a]? = some p ∧ a ∈ collateral.filter (fun _ amount => amount.val != 0) ∧
      p.isZeroPrice = false ∧
      liquidationPriceTooOld p now contract.maxLiquidationStalenessSeconds = true

theorem dropUnpriceableForLiquidation_spec {stored : PriceMap} {now : Timestamp}
    {contract : ContractStateV1} {collateral : Amounts} {q : LiquidationPrices}
    (h : dropUnpriceableForLiquidation stored now contract collateral = .ok q) :
    q.Valid stored now contract collateral := by
  simp only [dropUnpriceableForLiquidation, bind_eq_ok, okOr_eq_ok, ensure_eq_ok, exists_const,
    pure_eq_ok] at h
  obtain ⟨p, hp, hold, rfl⟩ := h
  refine ⟨⟨p, hp, hold⟩, fun a => ?_, fun a => ?_, fun a p => ?_⟩
  · rw [List.contains_iff_mem, List.mem_filter, Std.ExtTreeMap.mem_keys,
      Std.ExtTreeMap.mem_iff_isSome_getElem?, Std.ExtTreeMap.getElem?_filter',
      Option.isSome_iff_exists, amountOf_ne_zero_iff]
    simp [Option.filter_eq_some_iff]
  · dsimp only
    generalize List.filter _ _ = unpriceable
    rw [Std.ExtTreeMap.getElem?_filter']
    cases unpriceable.contains a <;> cases stored[a]? <;> rfl
  · rw [Std.ExtTreeMap.getElem?_filter', Option.filter_eq_some_iff]
    simp [and_assoc]

/-! ## Health -/

/-- One round of the loop over the holdings. -/
def addCollateralValue (prices : PriceMap) (supportedAssets : List CollateralAssetV1)
    (total : Decimal256) (entry : String × Uint128) : ContractResult Decimal256 :=
  match prices[entry.1]? with
  | none => return total
  | some price =>
    if price.isZeroPrice then return total
    else do
      let market ← price.valueUsd entry.2
      let value ← market.checkedMul (haircutPercentage supportedAssets entry.1)
      total.addOrAbort value

/-- The haircutted value of the holdings that have a price. -/
def calculateTotalCollateralValueUsd (collateral : Amounts) (prices : PriceMap)
    (supportedAssets : List CollateralAssetV1) : ContractResult Decimal256 :=
  collateral.toList.foldlM (addCollateralValue prices supportedAssets) Decimal256.zero

/-- The debt in USD; without a debt no price is needed. -/
def calculateBorrowValueUsd (underlyingDebt : Uint128) (lendingDenom : String)
    (prices : PriceMap) : ContractResult Decimal256 :=
  if underlyingDebt.val = 0 then return Decimal256.zero
  else do
    let price ← okOr prices[lendingDenom]? (notFound s!"Price of asset: {lendingDenom}")
    ensure (price.isZeroPrice = false) (illegalArgument "Lending denom price is zero")
    price.valueUsd underlyingDebt

/-- A debt without any collateral of value has the ratio 1, which is never below
the liquidation rate. -/
def calculateLtv (contract : ContractStateV1) (supportedAssets : List CollateralAssetV1)
    (prices : PriceMap) (collateral : Amounts) (underlyingDebt : Uint128) :
    ContractResult Decimal256 := do
  let borrowBalanceUsd ←
    calculateBorrowValueUsd underlyingDebt contract.lendingDenom.name prices
  let totalCollateralValueUsd ←
    calculateTotalCollateralValueUsd collateral prices supportedAssets
  if borrowBalanceUsd.isZero && totalCollateralValueUsd.isZero then return Decimal256.zero
  else if totalCollateralValueUsd.isZero then return Decimal256.one
  else borrowBalanceUsd.checkedDiv totalCollateralValueUsd

/-- The two limits of the configuration sort the loans. -/
def getHealthFromLtv (contract : ContractStateV1) (loanToValue : Decimal256) :
    BorrowerHealthV1 :=
  if contract.liquidationRate ≤ loanToValue then .liquidatable
  else if contract.marginRate < loanToValue then .unhealthy
  else .healthy

/-- The health of a position and the ratio it follows from. -/
structure BorrowerHealth where
  health : BorrowerHealthV1
  loanToValue : Decimal256

/-- The loan to value and the health that it means. -/
def getBorrowerHealth (contract : ContractStateV1) (supportedAssets : List CollateralAssetV1)
    (prices : PriceMap) (collateral : Amounts) (underlyingDebt : Uint128) :
    ContractResult BorrowerHealth := do
  let loanToValue ← calculateLtv contract supportedAssets prices collateral underlyingDebt
  return { health := getHealthFromLtv contract loanToValue, loanToValue }

/-- `0.09` as `9%`. -/
def formatAsPercentString (x : Decimal256) : ContractResult String := do
  let hundredfold ← x.checkedMul ⟨100 * decimalFractional, by decide⟩
  return s!"{hundredfold}%"

/-- The refusal of a position that is not healthy. -/
def unhealthyError (position : BorrowerHealth) (contract : ContractStateV1) :
    ContractResult Unit := do
  let threshold ← formatAsPercentString
    (if position.health = .liquidatable then contract.liquidationRate else contract.marginRate)
  let ltv ← formatAsPercentString position.loanToValue
  throw (illegalArgument
    s!"Resulting Loan-to-value [{ltv}] is above {position.health.asStr} threshold [{threshold}]")

/-- The margin check of Borrow and RemoveCollateral. -/
def validateBorrowerIsHealthy (position : BorrowerHealth) (contract : ContractStateV1) :
    ContractResult Unit :=
  if position.health = .healthy then return () else unhealthyError position contract

/-! ## Values as plain numbers -/

/-- The haircutted value of one holding, in atomics of a USD. -/
def assetValue (prices : PriceMap) (supportedAssets : List CollateralAssetV1) (assetId : String)
    (amount : Nat) : Nat :=
  match prices[assetId]? with
  | none => 0
  | some p =>
    p.valueAtomics amount * (haircutPercentage supportedAssets assetId).atomics / decimalFractional

/-- The haircutted value of a collateral map. -/
def collateralValue (prices : PriceMap) (supportedAssets : List CollateralAssetV1)
    (collateral : Amounts) : Nat :=
  (collateral.toList.map fun entry => assetValue prices supportedAssets entry.1 entry.2.val).sum

theorem isZeroPrice_valueAtomics {p : AssetPriceResponseV1} (h : p.isZeroPrice = true)
    (a : Nat) : p.valueAtomics a = 0 := by
  have hz : p.valuationInputs.1.atomics = 0 := Decimal256.isZero_iff.mp h
  simp [AssetPriceResponseV1.valueAtomics, hz]

@[simp] theorem assetValue_zero (prices : PriceMap) (sup : List CollateralAssetV1) (id : String) :
    assetValue prices sup id 0 = 0 := by
  unfold assetValue
  split <;> simp

/-- A round adds the value of its entry. -/
theorem addCollateralValue_eq {prices : PriceMap} {sup : List CollateralAssetV1}
    {t t' : Decimal256} {e : String × Uint128}
    (h : addCollateralValue prices sup t e = .ok t') :
    t'.atomics = t.atomics + assetValue prices sup e.1 e.2.val := by
  unfold addCollateralValue at h
  unfold assetValue
  cases hp : prices[e.1]? with
  | none =>
    rw [hp] at h
    cases h
    rfl
  | some p =>
    rw [hp] at h
    dsimp only at h ⊢
    by_cases hz : p.isZeroPrice = true
    · rw [if_pos hz] at h
      cases h
      simp [isZeroPrice_valueAtomics hz]
    · rw [if_neg hz] at h
      simp only [bind_eq_ok, Decimal256.checkedMul_eq_ok, Decimal256.addOrAbort_eq_ok] at h
      obtain ⟨m, hm, v, hv, ht⟩ := h
      rw [ht, hv, AssetPriceResponseV1.valueUsd_ok hm]

theorem calculateTotalCollateralValueUsd_eq {prices : PriceMap}
    {sup : List CollateralAssetV1} {c : Amounts} {v : Decimal256}
    (h : calculateTotalCollateralValueUsd c prices sup = .ok v) :
    v.atomics = collateralValue prices sup c := by
  have hloop := foldlM_ok_induct
    (fun done t => t.atomics =
      (done.map fun e : String × Uint128 => assetValue prices sup e.1 e.2.val).sum)
    (fun done t e t' ht hstep => by
      rw [addCollateralValue_eq hstep, ht, List.map_append, List.sum_append]
      simp) rfl h
  exact hloop

/-- The value of a debt, without the checks. -/
def debtValue (prices : PriceMap) (lendingDenom : String) (debt : Nat) : Nat :=
  match prices[lendingDenom]? with
  | none => 0
  | some p => p.valueAtomics debt

theorem calculateBorrowValueUsd_eq {d : Uint128} {lending : String} {prices : PriceMap}
    {v : Decimal256} (h : calculateBorrowValueUsd d lending prices = .ok v) :
    v.atomics = debtValue prices lending d.val := by
  unfold calculateBorrowValueUsd at h
  unfold debtValue
  by_cases hd : d.val = 0
  · rw [if_pos hd] at h
    cases h
    cases prices[lending]? <;> simp [hd]
  · rw [if_neg hd] at h
    simp only [bind_eq_ok, ensure_eq_ok, exists_const, okOr_eq_ok] at h
    obtain ⟨p, hp, -, hv⟩ := h
    rw [hp]
    exact AssetPriceResponseV1.valueUsd_ok hv

/-- The loan-to-value ratio of a debt value and a collateral value, in atomics. -/
def ltvAtomics (debtUsd collateralUsd : Nat) : Nat :=
  if debtUsd = 0 ∧ collateralUsd = 0 then 0
  else if collateralUsd = 0 then decimalFractional
  else debtUsd * decimalFractional / collateralUsd

/-- The ratio of a position with collateral of value is the quotient. -/
theorem ltvAtomics_of_collateral {debt collateral : Nat} (hc : collateral ≠ 0) :
    ltvAtomics debt collateral = debt * decimalFractional / collateral := by
  rw [ltvAtomics, if_neg fun hboth => hc hboth.2, if_neg hc]

theorem ltvAtomics_no_debt (collateral : Nat) : ltvAtomics 0 collateral = 0 := by
  by_cases hc : collateral = 0
  · rw [ltvAtomics, if_pos ⟨rfl, hc⟩]
  · rw [ltvAtomics_of_collateral hc, Nat.zero_mul, Nat.zero_div]

/-- A ratio below one does not rise when the debt falls and the collateral grows. -/
theorem ltvAtomics_le {debt debt' collateral collateral' : Nat} (hdebt : debt' ≤ debt)
    (hcollateral : collateral ≤ collateral')
    (hlt : ltvAtomics debt collateral < decimalFractional) :
    ltvAtomics debt' collateral' ≤ ltvAtomics debt collateral := by
  by_cases hc : collateral = 0
  · have hnone : debt = 0 := by
      by_contra hd
      rw [ltvAtomics, if_neg fun hboth => hd hboth.1, if_pos hc] at hlt
      exact Nat.lt_irrefl _ hlt
    have hnone' : debt' = 0 := by omega
    rw [hnone', ltvAtomics_no_debt]
    exact Nat.zero_le _
  · have hc' : collateral' ≠ 0 := by omega
    rw [ltvAtomics_of_collateral hc, ltvAtomics_of_collateral hc']
    exact Nat.div_le_div (Nat.mul_le_mul_right _ hdebt) hcollateral hc

theorem calculateLtv_eq {c : ContractStateV1} {sup : List CollateralAssetV1}
    {prices : PriceMap} {col : Amounts} {d : Uint128} {ltv : Decimal256}
    (h : calculateLtv c sup prices col d = .ok ltv) :
    ltv.atomics = ltvAtomics (debtValue prices c.lendingDenom.name d.val)
      (collateralValue prices sup col) := by
  simp only [calculateLtv, bind_eq_ok] at h
  obtain ⟨b, hb, t, ht, h⟩ := h
  rw [← calculateBorrowValueUsd_eq hb, ← calculateTotalCollateralValueUsd_eq ht, ltvAtomics]
  by_cases ht0 : t.atomics = 0
  · by_cases hb0 : b.atomics = 0
    · simp [Decimal256.isZero, hb0, ht0, pure_eq_ok] at h
      simp [← h, hb0, ht0]
    · simp [Decimal256.isZero, hb0, ht0, pure_eq_ok] at h
      simp [← h, hb0, ht0]
  · simp [Decimal256.isZero, ht0, Decimal256.checkedDiv_eq_ok] at h
    simp [h, ht0]

theorem getBorrowerHealth_eq {c : ContractStateV1} {sup : List CollateralAssetV1}
    {prices : PriceMap} {col : Amounts} {d : Uint128} {b : BorrowerHealth}
    (h : getBorrowerHealth c sup prices col d = .ok b) :
    b.health = getHealthFromLtv c b.loanToValue ∧
      b.loanToValue.atomics = ltvAtomics (debtValue prices c.lendingDenom.name d.val)
        (collateralValue prices sup col) := by
  simp only [getBorrowerHealth, bind_eq_ok, pure_eq_ok] at h
  obtain ⟨ltv, hltv, rfl⟩ := h
  exact ⟨rfl, calculateLtv_eq hltv⟩

theorem validateBorrowerIsHealthy_eq_ok {b : BorrowerHealth} {c : ContractStateV1} {u : Unit} :
    validateBorrowerIsHealthy b c = .ok u ↔ b.health = .healthy := by
  unfold validateBorrowerIsHealthy
  by_cases h : b.health = .healthy
  · simp [h, pure, Except.pure]
  · rw [if_neg h]
    simp only [h, iff_false]
    intro hok
    simp only [unhealthyError, bind_eq_ok] at hok
    obtain ⟨_, _, _, _, hthrow⟩ := hok
    cases hthrow

theorem getHealthFromLtv_healthy_iff {c : ContractStateV1} {ltv : Decimal256}
    (hrates : c.marginRate < c.liquidationRate) :
    getHealthFromLtv c ltv = .healthy ↔ ltv ≤ c.marginRate := by
  unfold getHealthFromLtv
  rw [Decimal256.lt_def] at hrates
  simp only [Decimal256.le_def, Decimal256.lt_def]
  split_ifs <;> simp <;> omega

theorem getHealthFromLtv_liquidatable_iff {c : ContractStateV1} {ltv : Decimal256} :
    getHealthFromLtv c ltv = .liquidatable ↔ c.liquidationRate ≤ ltv := by
  unfold getHealthFromLtv
  split_ifs <;> simp_all

end DemocratizedPrime
