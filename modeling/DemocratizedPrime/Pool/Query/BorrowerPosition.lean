import DemocratizedPrime.Pool.Query.CollateralRequirements

/-!
# The query of a borrower's position

`queryBorrowerPosition` shows the debt as of this block, the holdings, and the health of
the position twice: at the prices that count for borrowing, and at those that count for
liquidation.  Both are filtered from one answer of the oracle.

`borrowerPosition` computes the figures, and the response shows them as text.  A health
that cannot be computed is shown as `unknown`, with the reason.
-/

namespace DemocratizedPrime

open Result

/-- The amount in display units, with as many decimals as the denomination has. -/
def Denom.baseToDisplay (d : Denom) (baseUnits : Uint128) : ContractResult String := do
  ensure (10 ^ d.precision < 2 ^ 128) (.overflowError .pow)
  let divisor := 10 ^ d.precision
  let whole := toString (baseUnits.val / divisor)
  let frac := (toString (baseUnits.val % divisor)).toList
  if d.precision = 0 then return whole
  else
    return whole ++ "." ++ String.ofList (List.replicate (d.precision - frac.length) '0' ++ frac)

/-- The health that the query answers, with the cases that have no loan to value. -/
inductive BorrowerHealthResponseV1
  | healthy
  | unhealthy
  | liquidatable
  | noCollateral
  | unknown
deriving DecidableEq

/-- `From<BorrowerHealthV1>`. -/
def BorrowerHealthResponseV1.ofHealth : BorrowerHealthV1 → BorrowerHealthResponseV1
  | .healthy => .healthy
  | .unhealthy => .unhealthy
  | .liquidatable => .liquidatable

theorem BorrowerHealthResponseV1.ofHealth_eq_liquidatable {h : BorrowerHealthV1} :
    ofHealth h = .liquidatable ↔ h = .liquidatable := by
  cases h <;> simp [ofHealth]

theorem BorrowerHealthResponseV1.ofHealth_eq_healthy {h : BorrowerHealthV1} :
    ofHealth h = .healthy ↔ h = .healthy := by
  cases h <;> simp [ofHealth]

/-! ## The figures -/

/-- The health at some prices, and the error that kept it from being computed. -/
structure HealthView where
  loanToValue : Decimal256
  health : BorrowerHealthResponseV1
  unknownReason : Option ContractError

/-- What the answer says about the holdings. -/
structure CollateralFigures where
  collateral : List AssetRequirementV1
  unpriceableCollateral : List String
  collateralValueUsd : Decimal256
  borrowView : HealthView
  liquidationView : HealthView
  liquidationUnpriceableCollateral : List String

/-- What the query knows of a borrower, before it is written as texts. -/
structure BorrowerPosition where
  address : Addr
  scaledBorrow : Uint128
  underlyingDebt : Uint128
  underlyingDebtDisplay : String
  lendingDenom : Denom
  figures : CollateralFigures
  directedSaleOffer : Option DirectedSaleOfferV1
  directedSaleVersion : Uint64

/-- An error is shown as `unknown`.  A panic is not caught and ends the query. -/
def healthFromPrices (contract : ContractStateV1) (prices : PriceMap) (collateral : Amounts)
    (debt : Uint128) : ContractResult HealthView :=
  match getBorrowerHealth contract contract.supportedCollateralAssets prices collateral debt with
  | .ok position => .ok ⟨position.loanToValue, .ofHealth position.health, none⟩
  | .error (.aborted reason) => .error (.aborted reason)
  | .error e => .ok ⟨Decimal256.zero, .unknown, some e⟩

/-- Without holdings the health only depends on whether there is a debt. -/
def noCollateralFigures (underlyingDebt : Uint128) : CollateralFigures :=
  let health : BorrowerHealthResponseV1 :=
    if underlyingDebt.val = 0 then .healthy else .noCollateral
  let view : HealthView := ⟨Decimal256.zero, health, none⟩
  { collateral := []
    unpriceableCollateral := []
    collateralValueUsd := Decimal256.zero
    borrowView := view
    liquidationView := view
    liquidationUnpriceableCollateral := [] }

/-- The figures of a borrower with collateral. -/
def pricedFigures (deps : Deps) (env : Env) (contract : ContractStateV1)
    (collateral : Amounts) (underlyingDebt : Uint128) : ContractResult CollateralFigures := do
  let rawPrices ← getPriceFromOracle deps contract.priceOracleAddress
    (pricedAssetIds contract collateral) true
  let prices ← dropUnpriceableCollateral rawPrices contract.lendingDenom.name env.blockTime
  let liquidationPrices ← dropUnpriceableForLiquidation rawPrices env.blockTime contract collateral
  let collateralValue ← calculateTotalCollateralValueUsd collateral prices
    contract.supportedCollateralAssets
  let borrowView ← healthFromPrices contract prices collateral underlyingDebt
  let liquidationView ← healthFromPrices contract liquidationPrices.prices collateral
    underlyingDebt
  return {
    collateral := collateral.toList.map fun entry =>
      .holding entry.1 entry.2 (prices.contains entry.1)
    unpriceableCollateral := collateral.keys.filter fun id => !prices.contains id
    collateralValueUsd := collateralValue
    borrowView
    liquidationView
    liquidationUnpriceableCollateral :=
      collateral.keys.filter fun id => liquidationPrices.unpriceable.contains id }

/-- The figures of a borrower: without collateral nothing is priced. -/
def collateralFigures (deps : Deps) (env : Env) (contract : ContractStateV1)
    (collateral : Amounts) (underlyingDebt : Uint128) : ContractResult CollateralFigures :=
  if collateral.isEmpty then return noCollateralFigures underlyingDebt
  else pricedFigures deps env contract collateral underlyingDebt

/-- The position as of the block, with the interest up to it. -/
def borrowerPosition (deps : Deps) (store : PoolStorage) (env : Env) (address : String) :
    ContractResult BorrowerPosition := do
  let address ← deps.addrValidate address
  let contract := store.contract
  let reserve ← computeEffectiveReserve store env.blockTime contract.rateParams
  let scaled := store.getScaledBorrow address
  let underlyingDebt ← scaledToUnderlyingBorrow scaled reserve.borrowIndex
  let collateral := store.getBorrowerCollateral address
  let figures ← collateralFigures deps env contract collateral underlyingDebt
  let underlyingDebtDisplay ← contract.lendingDenom.baseToDisplay underlyingDebt
  return {
    address
    scaledBorrow := scaled
    underlyingDebt
    underlyingDebtDisplay
    lendingDenom := contract.lendingDenom
    figures
    directedSaleOffer := store.getDirectedSaleOffer address
    directedSaleVersion := store.getDirectedSaleVersion address }

/-! ## The response -/

/-- The answer. -/
structure BorrowerPositionResponseV1 where
  address : String
  scaledBorrow : String
  underlyingDebt : String
  underlyingDebtDisplay : String
  lendingDenom : Denom
  collateral : List AssetRequirementV1
  unpriceableCollateral : List String
  collateralValueUsd : String
  loanToValue : String
  health : BorrowerHealthResponseV1
  healthUnknownReason : Option ContractError
  liquidationLtv : String
  liquidationHealth : BorrowerHealthResponseV1
  liquidationUnpriceableCollateral : List String
  directedSaleOffer : Option DirectedSaleOfferV1
  directedSaleVersion : Uint64

/-- The position with its amounts as texts. -/
def BorrowerPosition.toResponse (p : BorrowerPosition) : BorrowerPositionResponseV1 where
  address := p.address
  scaledBorrow := toString p.scaledBorrow
  underlyingDebt := toString p.underlyingDebt
  underlyingDebtDisplay := p.underlyingDebtDisplay
  lendingDenom := p.lendingDenom
  collateral := p.figures.collateral
  unpriceableCollateral := p.figures.unpriceableCollateral
  collateralValueUsd := toString p.figures.collateralValueUsd
  loanToValue := toString p.figures.borrowView.loanToValue
  health := p.figures.borrowView.health
  healthUnknownReason := p.figures.borrowView.unknownReason
  liquidationLtv := toString p.figures.liquidationView.loanToValue
  liquidationHealth := p.figures.liquidationView.health
  liquidationUnpriceableCollateral := p.figures.liquidationUnpriceableCollateral
  directedSaleOffer := p.directedSaleOffer
  directedSaleVersion := p.directedSaleVersion

/-- `query_borrower_position`. -/
def queryBorrowerPosition (deps : Deps) (store : PoolStorage) (env : Env) (address : String) :
    ContractResult BorrowerPositionResponseV1 := do
  let position ← borrowerPosition deps store env address
  return position.toResponse

/-! ## What the figures are -/

theorem healthFromPrices_spec {c : ContractStateV1} {prices : PriceMap} {col : Amounts}
    {debt : Uint128} {view : HealthView} (h : healthFromPrices c prices col debt = .ok view) :
    (∃ position, getBorrowerHealth c c.supportedCollateralAssets prices col debt = .ok position ∧
        view.health = .ofHealth position.health) ∨
      ((∃ e, getBorrowerHealth c c.supportedCollateralAssets prices col debt = .error e) ∧
        view.health = .unknown) := by
  unfold healthFromPrices at h
  split at h
  · rename_i position hposition
    cases h
    exact Or.inl ⟨position, hposition, rfl⟩
  · cases h
  · rename_i e _ hposition
    cases h
    exact Or.inr ⟨⟨e, hposition⟩, rfl⟩

/-- A position with holdings: the debt, the prices of the two filters, and the health at
each. -/
structure BorrowerPosition.Valid (deps : Deps) (s : PoolStorage) (env : Env) (b : Addr)
    (p : BorrowerPosition) : Prop where
  address : deps.addrError b = none
  accrued : ∃ r, AccruedTo s env.blockTime r ∧
    p.underlyingDebt.val =
      (s.getScaledBorrow b).val * r.borrowIndex.atomics / decimalFractional
  prices : ∃ (stored prices : PriceMap) (quoted : LiquidationPrices),
    getAssetPricesForBorrower deps env.blockTime s.contract (s.getBorrowerCollateral b) =
      .ok prices ∧
    getAssetPricesForLiquidation deps env.blockTime s.contract (s.getBorrowerCollateral b) =
      .ok quoted ∧
    BorrowPrices stored s.contract.lendingDenom.name env.blockTime prices ∧
    quoted.Valid stored env.blockTime s.contract (s.getBorrowerCollateral b) ∧
    healthFromPrices s.contract prices (s.getBorrowerCollateral b) p.underlyingDebt =
      .ok p.figures.borrowView ∧
    healthFromPrices s.contract quoted.prices (s.getBorrowerCollateral b) p.underlyingDebt =
      .ok p.figures.liquidationView ∧
    p.figures.liquidationUnpriceableCollateral =
      (s.getBorrowerCollateral b).keys.filter fun id => quoted.unpriceable.contains id

theorem borrowerPosition_spec {deps : Deps} {s : PoolStorage} {env : Env} {b : Addr}
    {p : BorrowerPosition} (h : borrowerPosition deps s env b = .ok p)
    (hcol : (s.getBorrowerCollateral b).isEmpty = false) : p.Valid deps s env b := by
  simp only [borrowerPosition, bind_eq_ok, addrValidate_eq_ok, pure_eq_ok] at h
  obtain ⟨_, ⟨haddress, rfl⟩, r, hr, debt, hdebt, figures, hfigures, display, -, rfl⟩ := h
  rw [collateralFigures, hcol, if_neg Bool.false_ne_true] at hfigures
  simp only [pricedFigures, bind_eq_ok, pure_eq_ok] at hfigures
  obtain ⟨stored, hstored, prices, hprices, quoted, hquoted, value, -, borrowView, hborrow,
    liquidationView, hliquidation, rfl⟩ := hfigures
  refine ⟨haddress, ⟨r, hr, scaledToUnderlying_eq hdebt⟩, stored, prices, quoted, ?_, ?_,
    dropUnpriceableCollateral_spec hprices, dropUnpriceableForLiquidation_spec hquoted, hborrow,
    hliquidation, rfl⟩
  · rw [getAssetPricesForBorrower, hstored, ok_bind]
    exact hprices
  · rw [getAssetPricesForLiquidation, hstored, ok_bind]
    exact hquoted

end DemocratizedPrime
