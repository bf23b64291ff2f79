import DemocratizedPrime.Common.Migrate
import DemocratizedPrime.Pool.Storage

/-!
# The stored form of the pool

The items of the pool are stored as JSON.  Where the code has grown, a key may be missing
from what older code stored, and reads as a default.  The tag `owner_only` is from a time
when the owner liquidated.

`PoolStorage.save` writes the present form, and `StoredPool.load` reads that and the older
ones.  Reading inverts writing (`PoolStorage.load_save`), except for the length of a year.
Whatever year the rate parameters have, a 365-day year is written.
-/

namespace DemocratizedPrime

open Result

/-! ## Rate parameters -/

/-- The default fee model is left out of the stored form. -/
def isDefaultFeeModel (v : FeeModelV1) : Bool := v == .reserveFactor

/-- The stored year is always the constant of the accrual. -/
def serializeSecondsPerYear (_ : Nat) : Nat := secondsPerYear

/-- The stored form of the rate parameters; the fields with a default may be missing. -/
structure StoredRateParams where
  targetRate : Decimal256
  minRate : Decimal256
  maxRate : Decimal256
  kinkUtilization : Decimal256
  reserveFactor : Decimal256
  feeModel : Option FeeModelV1
  flatFeeApr : Option Decimal256
  secondsPerYear : Option Nat
deriving DecidableEq

/-- `deserialize`: a missing field gets its default. -/
def StoredRateParams.load (p : StoredRateParams) : RateParamsV1 where
  targetRate := p.targetRate
  minRate := p.minRate
  maxRate := p.maxRate
  kinkUtilization := p.kinkUtilization
  reserveFactor := p.reserveFactor
  feeModel := p.feeModel.getD .reserveFactor
  flatFeeApr := p.flatFeeApr.getD Decimal256.zero
  secondsPerYear := p.secondsPerYear.getD DemocratizedPrime.secondsPerYear

/-- `serialize`. -/
def RateParamsV1.save (p : RateParamsV1) : StoredRateParams where
  targetRate := p.targetRate
  minRate := p.minRate
  maxRate := p.maxRate
  kinkUtilization := p.kinkUtilization
  reserveFactor := p.reserveFactor
  feeModel := if isDefaultFeeModel p.feeModel then none else some p.feeModel
  flatFeeApr := if p.flatFeeApr.isZero then none else some p.flatFeeApr
  secondsPerYear := some (serializeSecondsPerYear p.secondsPerYear)

/-- The parameters with a 365-day year. -/
def RateParamsV1.withYear (p : RateParamsV1) : RateParamsV1 :=
  { p with secondsPerYear := DemocratizedPrime.secondsPerYear }

theorem RateParamsV1.load_save (p : RateParamsV1) : p.save.load = p.withYear := by
  have hmodel : (if isDefaultFeeModel p.feeModel then none else some p.feeModel).getD
      FeeModelV1.reserveFactor = p.feeModel := by
    cases p.feeModel <;> rfl
  have hfee : (if p.flatFeeApr.isZero then none else some p.flatFeeApr).getD Decimal256.zero =
      p.flatFeeApr := by
    split
    · rename_i hzero
      exact (Decimal256.ext (Decimal256.isZero_iff.mp hzero)).symm
    · rfl
  unfold RateParamsV1.save StoredRateParams.load RateParamsV1.withYear
  rw [hmodel, hfee]
  rfl

/-! ## The contract state -/

/-- How the access is read from storage. -/
def liquidationAccessFromStorageStr (s : String) : StdResult LiquidationAccess :=
  if s = "liquidator_only" ∨ s = "owner_only" then .ok .liquidatorOnly
  else if s = "permissionless" then .ok .permissionless
  else .error
    s!"unknown variant `{s}`, expected `liquidator_only`, `owner_only`, or `permissionless`"

/-- The tag that is written is read as the access that it is for. -/
theorem liquidationAccessFromStorageStr_asStr (access : LiquidationAccess) :
    liquidationAccessFromStorageStr access.asStr = .ok access := by
  cases access with
  | liquidatorOnly => exact if_pos (Or.inl rfl)
  | permissionless => exact (if_neg (by decide)).trans (if_pos rfl)

/-- The JSON of the contract state, old administrator included. -/
structure StoredContractState where
  contractName : String
  description : String
  repoTokenCw20Address : Option Addr
  lendingDenom : Denom
  rateParams : StoredRateParams
  lenderRequiredAttrs : List String
  borrowerRequiredAttrs : List String
  priceOracleAddress : Addr
  maxBorrowerCollateralTypes : Nat
  marginRate : Decimal256
  liquidationRate : Decimal256
  liquidationBonusRate : Decimal256
  minLend : Uint128
  minBorrow : Uint128
  supportedCollateralAssets : Option (List CollateralAssetV1)
  operationalState : Option OperationalState
  commitMarketId : Option Nat
  badDebtLossAllocation : Option BadDebtLossAllocation
  custodian : Option Addr
  liquidator : Option Addr
  maxLiquidationStalenessSeconds : Option Nat
  liquidationAccess : Option String
  admin : Option Addr
deriving DecidableEq

/-- The stored liquidation access, which older releases did not write. -/
def StoredContractState.loadAccess (c : StoredContractState) : StdResult LiquidationAccess :=
  match c.liquidationAccess with
  | none => .ok .liquidatorOnly
  | some tag => liquidationAccessFromStorageStr tag

/-- `deserialize`: a missing field gets its default. -/
def StoredContractState.load (c : StoredContractState) : StdResult ContractStateV1 := do
  let liquidationAccess ← c.loadAccess
  return {
    contractName := c.contractName
    description := c.description
    repoTokenCw20Address := c.repoTokenCw20Address
    lendingDenom := c.lendingDenom
    rateParams := c.rateParams.load
    lenderRequiredAttrs := c.lenderRequiredAttrs
    borrowerRequiredAttrs := c.borrowerRequiredAttrs
    priceOracleAddress := c.priceOracleAddress
    maxBorrowerCollateralTypes := c.maxBorrowerCollateralTypes
    marginRate := c.marginRate
    liquidationRate := c.liquidationRate
    liquidationBonusRate := c.liquidationBonusRate
    minLend := c.minLend
    minBorrow := c.minBorrow
    supportedCollateralAssets := c.supportedCollateralAssets.getD []
    operationalState := c.operationalState.getD .active
    commitMarketId := c.commitMarketId
    badDebtLossAllocation := c.badDebtLossAllocation.getD .deferredToDeficit
    custodian := c.custodian
    liquidator := c.liquidator
    maxLiquidationStalenessSeconds :=
      c.maxLiquidationStalenessSeconds.getD defaultMaxLiquidationStalenessSeconds
    liquidationAccess }

/-- `serialize`. -/
def ContractStateV1.save (c : ContractStateV1) : StoredContractState where
  contractName := c.contractName
  description := c.description
  repoTokenCw20Address := c.repoTokenCw20Address
  lendingDenom := c.lendingDenom
  rateParams := c.rateParams.save
  lenderRequiredAttrs := c.lenderRequiredAttrs
  borrowerRequiredAttrs := c.borrowerRequiredAttrs
  priceOracleAddress := c.priceOracleAddress
  maxBorrowerCollateralTypes := c.maxBorrowerCollateralTypes
  marginRate := c.marginRate
  liquidationRate := c.liquidationRate
  liquidationBonusRate := c.liquidationBonusRate
  minLend := c.minLend
  minBorrow := c.minBorrow
  supportedCollateralAssets := some c.supportedCollateralAssets
  operationalState := some c.operationalState
  commitMarketId := c.commitMarketId
  badDebtLossAllocation := some c.badDebtLossAllocation
  custodian := c.custodian
  liquidator := c.liquidator
  maxLiquidationStalenessSeconds := some c.maxLiquidationStalenessSeconds
  liquidationAccess := some c.liquidationAccess.asStr
  admin := none

/-- The configuration with a 365-day year. -/
def ContractStateV1.withYear (c : ContractStateV1) : ContractStateV1 :=
  { c with rateParams := c.rateParams.withYear }

theorem ContractStateV1.load_save (c : ContractStateV1) : c.save.load = .ok c.withYear := by
  have haccess : c.save.loadAccess = .ok c.liquidationAccess :=
    liquidationAccessFromStorageStr_asStr c.liquidationAccess
  unfold StoredContractState.load
  rw [haccess, ok_bind, pure_eq_ok]
  show _ = { c with rateParams := c.rateParams.withYear }
  rw [← RateParamsV1.load_save]
  rfl

theorem ContractStateV1.withYear_eq {c : ContractStateV1}
    (h : c.rateParams.secondsPerYear = secondsPerYear) : c.withYear = c := by
  unfold ContractStateV1.withYear RateParamsV1.withYear
  rw [← h]

/-! ## The pool -/

/-- The stored form of the reserve. -/
structure StoredReserve where
  liquidityIndex : Decimal256
  borrowIndex : Decimal256
  lastUpdatedAt : Timestamp
  totalScaledLiquidity : Uint128
  totalScaledBorrow : Uint128
  accruedReserve : Option Uint128
  deficitUnderlying : Option Uint128

/-- `deserialize`: a missing counter is zero. -/
def StoredReserve.load (r : StoredReserve) : ReserveStateV1 where
  liquidityIndex := r.liquidityIndex
  borrowIndex := r.borrowIndex
  lastUpdatedAt := r.lastUpdatedAt
  totalScaledLiquidity := r.totalScaledLiquidity
  totalScaledBorrow := r.totalScaledBorrow
  accruedReserve := r.accruedReserve.getD 0
  deficitUnderlying := r.deficitUnderlying.getD 0

/-- `serialize`. -/
def ReserveStateV1.save (r : ReserveStateV1) : StoredReserve where
  liquidityIndex := r.liquidityIndex
  borrowIndex := r.borrowIndex
  lastUpdatedAt := r.lastUpdatedAt
  totalScaledLiquidity := r.totalScaledLiquidity
  totalScaledBorrow := r.totalScaledBorrow
  accruedReserve := some r.accruedReserve
  deficitUnderlying := some r.deficitUnderlying

/-- Everything that the pool stores, with the version of the code that stored it. -/
structure StoredPool extends Upgradable StoredContractState where
  reserve : StoredReserve
  scaledBorrow : Std.ExtTreeMap Addr Uint128
  borrowerCollateral : Std.ExtTreeMap Addr Amounts
  totalCollateralByAsset : Amounts
  directedSaleOffer : Std.ExtTreeMap Addr DirectedSaleOfferV1
  directedSaleVersion : Std.ExtTreeMap Addr Uint64
  borrowerRequireCommit : Std.ExtTreeMap Addr Unit
  lenderRequireCommitOnExit : Std.ExtTreeMap Addr Unit

/-- The books of a stored pool, under a configuration and an ownership. -/
def StoredPool.books (store : StoredPool) (contract : ContractStateV1) (ownership : Ownership) :
    PoolStorage where
  contract
  reserve := store.reserve.load
  ownership
  scaledBorrow := store.scaledBorrow
  borrowerCollateral := store.borrowerCollateral
  totalCollateralByAsset := store.totalCollateralByAsset
  directedSaleOffer := store.directedSaleOffer
  directedSaleVersion := store.directedSaleVersion
  borrowerRequireCommit := store.borrowerRequireCommit
  lenderRequireCommitOnExit := store.lenderRequireCommitOnExit

/-- The pool that the running code reads. -/
def StoredPool.load (store : StoredPool) : ContractResult PoolStorage := do
  let contract ← fromStd store.state.load
  let ownership ← okOr store.ownership ownershipNotFound
  return store.books contract ownership

/-- How this code stores a pool. -/
def PoolStorage.save (s : PoolStorage) (version : ContractVersion) : StoredPool where
  version
  state := s.contract.save
  ownership := some s.ownership
  reserve := s.reserve.save
  scaledBorrow := s.scaledBorrow
  borrowerCollateral := s.borrowerCollateral
  totalCollateralByAsset := s.totalCollateralByAsset
  directedSaleOffer := s.directedSaleOffer
  directedSaleVersion := s.directedSaleVersion
  borrowerRequireCommit := s.borrowerRequireCommit
  lenderRequireCommitOnExit := s.lenderRequireCommitOnExit

/-- A pool is read as it was written. -/
theorem PoolStorage.load_save {s : PoolStorage}
    (h : s.contract.rateParams.secondsPerYear = secondsPerYear) (version : ContractVersion) :
    (s.save version).load = .ok s := by
  have hcontract : fromStd (s.save version).state.load = .ok s.contract := by
    rw [fromStd_eq_ok, ← ContractStateV1.withYear_eq h]
    exact ContractStateV1.load_save s.contract
  unfold StoredPool.load
  rw [hcontract]
  rfl

end DemocratizedPrime
