import DemocratizedPrime.Pool.Pricing

/-!
# The query of required collateral

`queryCollateralRequirements` answers "how much collateral does this loan need?".  It
values the debt that Borrow would record in this block, divides it by the margin rate and
rounds up, and takes off what the borrower's holdings are worth.  For each requested asset
it quotes the least amount that covers the rest.

`collateralQuote` computes the figures, and the response shows them as text.  Whatever
fails is an error of the contract, which the source wraps as `QueryError::Contract`.
-/

namespace DemocratizedPrime

open Result

/-- A row of the answer.  `satisfiable` is false when a positive requirement could not be
quoted. -/
structure AssetRequirementV1 where
  assetId : String
  amount : Uint128
  satisfiable : Bool
deriving DecidableEq

namespace AssetRequirementV1

/-- A row of the answer. -/
def holding (assetId : String) (amount : Uint128) (satisfiable : Bool) : AssetRequirementV1 :=
  ⟨assetId, amount, satisfiable⟩

/-- The row of an asset that can cover the value. -/
def quoted (assetId : String) (amount : Uint128) : AssetRequirementV1 :=
  holding assetId amount true

/-- The row of an asset that cannot. -/
def unquotable (assetId : String) : AssetRequirementV1 := holding assetId 0 false

end AssetRequirementV1

/-- The answer. -/
structure CollateralRequirementsResponseV1 where
  requiredCollateralValueUsd : String
  additionalCollateralValueUsd : String
  required : List AssetRequirementV1
  unpriceableCollateral : List String

/-- The figures of the answer. -/
structure CollateralQuote where
  requiredCollateralValueUsd : Decimal256
  valueToCover : Decimal256
  required : List AssetRequirementV1
  unpriceableCollateral : List String

/-- The quote with its values as texts. -/
def CollateralQuote.toResponse (q : CollateralQuote) : CollateralRequirementsResponseV1 where
  requiredCollateralValueUsd := toString q.requiredCollateralValueUsd
  additionalCollateralValueUsd := toString q.valueToCover
  required := q.required
  unpriceableCollateral := q.unpriceableCollateral

/-- The quotient, with one atomic more unless it is exact. -/
def checkedDivCeil (numerator denominator : Decimal256) : ContractResult Decimal256 := do
  let quotient ← numerator.checkedDiv denominator
  let product ← quotient.checkedMul denominator
  if product = numerator then return quotient
  else quotient.checkedAdd ⟨1, by decide⟩

/-- One round of the loops that collect the assets to price. -/
def pushAssetId (assetIds : List String) (id : String) : List String :=
  if assetIds.contains id then assetIds else assetIds ++ [id]

/-- The lending denomination, the requested assets, and the holdings, each once. -/
def requirementAssetIds (lendingDenom : String) (collateralAssets held : List String) :
    List String :=
  (collateralAssets ++ held).foldl pushAssetId [lendingDenom]

/-- The debt that Borrow records for a new loan, and the present debt without one. -/
def totalDebtAfter (currentScaled newLoanAmount : Uint128) (borrowIndex : Decimal256) :
    ContractResult Uint128 :=
  if newLoanAmount.val = 0 then scaledToUnderlyingBorrow currentScaled borrowIndex
  else do
    let debt ← debtAfterBorrow currentScaled newLoanAmount borrowIndex
    return debt.debtAfter

/-- What the holdings leave to cover. -/
def valueToCover (required : Decimal256) (held : Option Amounts) (prices : PriceMap)
    (supportedAssets : List CollateralAssetV1) : ContractResult Decimal256 :=
  match held with
  | none => return required
  | some collateral => do
    let existing ← calculateTotalCollateralValueUsd collateral prices supportedAssets
    return required.saturatingSub existing

/-- The row of one requested asset. -/
def assetRequirement (contract : ContractStateV1) (prices : PriceMap) (toCover : Decimal256)
    (assetId : String) : ContractResult AssetRequirementV1 :=
  if toCover.isZero then return .quoted assetId 0
  else
    let haircut := haircutPercentage contract.supportedCollateralAssets assetId
    match prices[assetId]? with
    | none => return .unquotable assetId
    | some price =>
      if price.isZeroPrice || haircut.isZero then return .unquotable assetId
      else
        match price.amountFromUsdHaircutted toCover haircut with
        | .ok amount => return .quoted assetId amount
        | .error .amountNotRepresentable => return .unquotable assetId
        | .error e => throw e

/-- The value that a loan needs, what it lacks, and a row for each asset that could cover it. -/
def collateralQuote (deps : Deps) (store : PoolStorage) (env : Env) (borrower : Option String)
    (newLoanAmount : Uint128) (collateralAssets : List String) :
    ContractResult CollateralQuote := do
  let contract := store.contract
  if newLoanAmount.isZero && borrower.isNone then
    return {
      requiredCollateralValueUsd := Decimal256.zero
      valueToCover := Decimal256.zero
      required := collateralAssets.map (AssetRequirementV1.quoted · 0)
      unpriceableCollateral := [] }
  else
    let held := borrower.map store.getBorrowerCollateral
    let heldIds := (held.map (·.keys)).getD []
    let assetIds := requirementAssetIds contract.lendingDenom.name collateralAssets heldIds
    let priceData ← getPriceFromOracle deps contract.priceOracleAddress assetIds true
    let prices ← dropUnpriceableCollateral priceData contract.lendingDenom.name env.blockTime
    let reserve ← computeEffectiveReserve store env.blockTime contract.rateParams
    let currentScaled := (borrower.map store.getScaledBorrow).getD 0
    let totalDebt ← totalDebtAfter currentScaled newLoanAmount reserve.borrowIndex
    let totalDebtValueUsd ← calculateBorrowValueUsd totalDebt contract.lendingDenom.name prices
    let requiredCollateralValueUsd ← checkedDivCeil totalDebtValueUsd contract.marginRate
    let toCover ← valueToCover requiredCollateralValueUsd held prices
      contract.supportedCollateralAssets
    let required ← collateralAssets.mapM (assetRequirement contract prices toCover)
    return {
      requiredCollateralValueUsd
      valueToCover := toCover
      required
      unpriceableCollateral := heldIds.filter fun id => !prices.contains id }

/-- `query_collateral_requirements`. -/
def queryCollateralRequirements (deps : Deps) (store : PoolStorage) (env : Env)
    (borrower : Option String) (newLoanAmount : Uint128) (collateralAssets : List String) :
    ContractResult CollateralRequirementsResponseV1 := do
  let quote ← collateralQuote deps store env borrower newLoanAmount collateralAssets
  return quote.toResponse

end DemocratizedPrime
