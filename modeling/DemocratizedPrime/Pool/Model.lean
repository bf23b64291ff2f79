import DemocratizedPrime.CosmWasm.Ownable
import DemocratizedPrime.Common.Amounts

/-!
# The pool's data

The records that the pool keeps in storage, with the checks that each of them
carries.  Amounts are whole base units.  The two indexes of `ReserveStateV1`
turn scaled units into base units: a lender's scaled balance is worth
`scaled · liquidityIndex`, and a borrower's scaled debt is `scaled · borrowIndex`.
-/

namespace DemocratizedPrime

open Result

/-! ## Denominations and collateral -/

/-- `10 ^ 38` is the largest power of ten in a `u128`. -/
def maxDenomPrecision : Nat := 38

/-- The denom that is lent, with its fractional places. -/
structure Denom where
  name : String
  precision : Nat
deriving DecidableEq

/-- A denom has a name, and not too many places. -/
def Denom.validate (d : Denom) : ContractResult Unit := do
  ensure (trim d.name ≠ "") (illegalArgument "Denom name cannot be empty")
  ensure (d.precision ≤ maxDenomPrecision)
    (illegalArgument s!"Denom precision must be <= {maxDenomPrecision}")

/-- An asset that is taken as collateral, with the share of its value that counts. -/
structure CollateralAssetV1 where
  assetId : String
  haircut : Option Decimal256
deriving DecidableEq

/-- An asset has a name, and a haircut in `(0, 1]` if it has one. -/
def CollateralAssetV1.validate (a : CollateralAssetV1) : ContractResult Unit := do
  ensure (trim a.assetId ≠ "") (illegalArgument "Asset ID cannot be empty")
  match a.haircut with
  | none => return ()
  | some h =>
    ensure (h.isZero = false) (illegalArgument "Haircut must be > 0")
    ensure (h ≤ Decimal256.one) (illegalArgument "Haircut cannot exceed 100%")

/-- The haircut of an asset, or 100% for an asset without an entry. -/
def haircutPercentage (supportedAssets : List CollateralAssetV1) (assetId : String) :
    Decimal256 :=
  ((supportedAssets.find? (·.assetId == assetId)).bind (·.haircut)).getD Decimal256.one

/-! ## Interest rates -/

/-- How the protocol is paid: by a share of the interest, or by a fixed rate of the debt. -/
inductive FeeModelV1
  | reserveFactor
  | flatBorrowSpread
deriving DecidableEq

/-- A 365-day year. -/
def secondsPerYear : Nat := 31536000

/-- The parameters of the kink curve and of the fee. -/
structure RateParamsV1 where
  targetRate : Decimal256
  minRate : Decimal256
  maxRate : Decimal256
  kinkUtilization : Decimal256
  reserveFactor : Decimal256
  feeModel : FeeModelV1
  flatFeeApr : Decimal256
  secondsPerYear : Nat
deriving DecidableEq

/-- The fee field of the mode that is not in use must be zero. -/
def RateParamsV1.validateFeeModel (p : RateParamsV1) : ContractResult Unit :=
  match p.feeModel with
  | .flatBorrowSpread => do
    ensure (p.flatFeeApr ≤ p.minRate) (illegalArgument
      "rate_params: flat_fee_apr must be <= min_rate for flat_borrow_spread mode")
    ensure (p.reserveFactor.isZero = true) (illegalArgument
      "rate_params: reserve_factor must be zero when fee_model is flat_borrow_spread")
  | .reserveFactor =>
    ensure (p.flatFeeApr.isZero = true) (illegalArgument
      "rate_params: flat_fee_apr must be zero when fee_model is reserve_factor")

/-- What is checked of the parameters before they are stored. -/
def RateParamsV1.validate (p : RateParamsV1) : ContractResult Unit := do
  ensure (p.minRate ≤ p.targetRate)
    (illegalArgument "rate_params: min_rate must be <= target_rate")
  ensure (p.targetRate ≤ p.maxRate)
    (illegalArgument "rate_params: target_rate must be <= max_rate")
  ensure (p.maxRate ≤ Decimal256.one)
    (illegalArgument "rate_params: max_rate must be <= 1 (100% APR)")
  ensure (p.kinkUtilization.isZero = false ∧ p.kinkUtilization < Decimal256.one)
    (illegalArgument "rate_params: kink_utilization must be in (0, 1)")
  ensure (p.reserveFactor < Decimal256.one)
    (illegalArgument "rate_params: reserve_factor must be < 1")
  ensure (p.flatFeeApr < Decimal256.one)
    (illegalArgument "rate_params: flat_fee_apr must be < 1")
  p.validateFeeModel
  ensure (p.secondsPerYear = DemocratizedPrime.secondsPerYear)
    (illegalArgument "rate_params: seconds_per_year must be 31536000")

/-! ## The reserve -/

/-- Indexes, scaled totals, and what the protocol has booked. -/
@[ext] structure ReserveStateV1 where
  liquidityIndex : Decimal256
  borrowIndex : Decimal256
  lastUpdatedAt : Timestamp
  totalScaledLiquidity : Uint128
  totalScaledBorrow : Uint128
  accruedReserve : Uint128
  deficitUnderlying : Uint128
deriving DecidableEq

namespace ReserveStateV1

/-- All lenders' balances.  A `u128` count always fits, so `from_atomics` does
not fall back. -/
def totalLiquidity (r : ReserveStateV1) : ContractResult Decimal256 := do
  let scaled ← Decimal256.fromRatio r.totalScaledLiquidity.val 1
  scaled.checkedMul r.liquidityIndex

/-- All borrowers' debt. -/
def totalBorrow (r : ReserveStateV1) : ContractResult Decimal256 := do
  let scaled ← Decimal256.fromRatio r.totalScaledBorrow.val 1
  scaled.checkedMul r.borrowIndex

/-- `total_borrow / total_liquidity`, and zero without liquidity. -/
def utilization (r : ReserveStateV1) : ContractResult Decimal256 := do
  let liquidity ← r.totalLiquidity
  if liquidity.isZero then return Decimal256.zero
  else
    let borrow ← r.totalBorrow
    borrow.checkedDiv liquidity

end ReserveStateV1

/-! ## Configuration -/

/-- Where the loss of a liquidation goes: to the deficit, or to the lenders at once. -/
inductive BadDebtLossAllocation
  | deferredToDeficit
  | immediateLiquidityIndexHaircut
deriving DecidableEq

/-- `as_str`. -/
def BadDebtLossAllocation.asStr : BadDebtLossAllocation → String
  | .deferredToDeficit => "deferred_to_deficit"
  | .immediateLiquidityIndexHaircut => "immediate_liquidity_index_haircut"

/-- Who may liquidate. -/
inductive LiquidationAccess
  | liquidatorOnly
  | permissionless
deriving DecidableEq

/-- `as_str`. -/
def LiquidationAccess.asStr : LiquidationAccess → String
  | .liquidatorOnly => "liquidator_only"
  | .permissionless => "permissionless"

/-- Frozen pools do not lend, and paused pools hardly do anything. -/
inductive OperationalState
  | active
  | frozen
  | paused
deriving DecidableEq

/-- The lower-cased `Debug` form. -/
def OperationalState.asStr : OperationalState → String
  | .active => "active"
  | .frozen => "frozen"
  | .paused => "paused"

/-- `DEFAULT_MAX_LIQUIDATION_STALENESS_SECONDS`, an hour. -/
def defaultMaxLiquidationStalenessSeconds : Nat := 60 * 60

/-- `MAX_ALLOWED_LIQUIDATION_STALENESS_SECONDS`, a day. -/
def maxAllowedLiquidationStalenessSeconds : Nat := 24 * 60 * 60

/-- `MAX_PERMISSIONLESS_LIQUIDATION_STALENESS_SECONDS`. -/
def maxPermissionlessLiquidationStalenessSeconds : Nat := defaultMaxLiquidationStalenessSeconds

/-- `MAX_LENDER_BORROWER_REQUIRED_ATTRS`. -/
def maxLenderBorrowerRequiredAttrs : Nat := 10

/-- The configuration of a pool. -/
structure ContractStateV1 where
  contractName : String
  description : String
  repoTokenCw20Address : Option Addr
  lendingDenom : Denom
  rateParams : RateParamsV1
  lenderRequiredAttrs : List String
  borrowerRequiredAttrs : List String
  priceOracleAddress : Addr
  maxBorrowerCollateralTypes : Nat
  marginRate : Decimal256
  liquidationRate : Decimal256
  liquidationBonusRate : Decimal256
  minLend : Uint128
  minBorrow : Uint128
  supportedCollateralAssets : List CollateralAssetV1
  operationalState : OperationalState
  commitMarketId : Option Nat
  badDebtLossAllocation : BadDebtLossAllocation
  custodian : Option Addr
  liquidator : Option Addr
  maxLiquidationStalenessSeconds : Nat
  liquidationAccess : LiquidationAccess
deriving DecidableEq

namespace ContractStateV1

/-- The repo token, once it is bound. -/
def repoTokenAddr (c : ContractStateV1) : ContractResult Addr :=
  okOr c.repoTokenCw20Address (illegalState "repo token not bound")

/-- `supported_ids.contains(asset)`. -/
def supports (c : ContractStateV1) (asset : String) : Bool :=
  c.supportedCollateralAssets.any (·.assetId == asset)

end ContractStateV1

/-- Permissionless liquidation needs a short price window, the immediate
haircut, and no deficit. -/
def ensurePermissionlessConfig (access : LiquidationAccess)
    (maxLiquidationStalenessSeconds : Nat) (allocation : BadDebtLossAllocation)
    (deficitUnderlying : Nat) : ContractResult Unit :=
  match access with
  | .liquidatorOnly => return ()
  | .permissionless => do
    ensure (maxLiquidationStalenessSeconds ≤ maxPermissionlessLiquidationStalenessSeconds)
      (illegalArgument
        "max_liquidation_staleness_seconds too high for permissionless liquidation")
    ensure (allocation = .immediateLiquidityIndexHaircut) (illegalArgument
      "permissionless liquidation requires immediate_liquidity_index_haircut")
    ensure (deficitUnderlying = 0) (illegalArgument
      ("cannot enable permissionless liquidation while deficit_underlying > 0; clear the " ++
        "deficit with EliminateDeficit or SocializeDeficit first"))

/-! ## Directed sales -/

/-- What a borrower lets a liquidator take first, and until when. -/
structure DirectedSaleOfferV1 where
  amounts : Amounts
  expiresAt : Timestamp

/-- The seizure without its zero amounts. -/
def normalizeSeizeMap (seize : Amounts) : Amounts :=
  seize.filter fun _ amount => !amount.isZero

theorem normalizeSeizeMap_amountOf (seize : Amounts) (a : String) :
    amountOf (normalizeSeizeMap seize) a = amountOf seize a := by
  unfold amountOf normalizeSeizeMap
  rw [Std.ExtTreeMap.getElem?_filter']
  cases h : seize[a]? with
  | none => rfl
  | some v =>
    cases hv : v.isZero with
    | true =>
      have hzero : v = 0 := Uint.ext (by rw [Uint.val_zero]; exact Uint.isZero_iff.mp hv)
      simp only [hzero, Option.filter]
      split <;> rfl
    | false => simp [Option.filter, hv]

theorem normalizeSeizeMap_noNull (seize : Amounts) :
    TreeMap.NoNull Uint.isZero (normalizeSeizeMap seize) := by
  intro k v h
  rw [normalizeSeizeMap, Std.ExtTreeMap.getElem?_filter', Option.filter_eq_some_iff] at h
  simpa using h.2

/-- A non-empty seizure, every part of which the offer lists in at least that
amount. -/
def isSeizeWithinOffer (offer seize : Amounts) : Bool :=
  let seize := normalizeSeizeMap seize
  !seize.isEmpty && seize.toList.all fun entry =>
    offer[entry.1]?.any fun listed => decide (entry.2.val ≤ listed.val)

/-- One round of `subtract_seize`. -/
def subtractSeizeEntry (remaining : Amounts) (entry : String × Uint128) : Amounts :=
  match remaining[entry.1]? with
  | none => remaining
  | some listed =>
    TreeMap.putUnless Uint.isZero remaining entry.1 (listed.saturatingSub entry.2)

/-- The offer without what was seized. -/
def subtractSeize (offer seize : Amounts) : Amounts :=
  (normalizeSeizeMap seize).toList.foldl subtractSeizeEntry offer

/-- An offer is live strictly before its deadline. -/
def DirectedSaleOfferV1.isLive (offer : DirectedSaleOfferV1) (now : Timestamp) : Bool :=
  decide (now.nanos.val < offer.expiresAt.nanos.val)

/-! ## Health -/

/-- How a loan stands. -/
inductive BorrowerHealthV1
  | healthy
  | unhealthy
  | liquidatable
deriving DecidableEq

/-- The `Debug` form. -/
def BorrowerHealthV1.asStr : BorrowerHealthV1 → String
  | .healthy => "Healthy"
  | .unhealthy => "Unhealthy"
  | .liquidatable => "Liquidatable"

end DemocratizedPrime
