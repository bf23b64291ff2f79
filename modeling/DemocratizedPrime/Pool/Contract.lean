import DemocratizedPrime.Pool.Execute.Lending
import DemocratizedPrime.Pool.Execute.Liquidate
import DemocratizedPrime.Pool.Execute.Deficit
import DemocratizedPrime.Pool.Execute.Config

/-!
# The pool contract

`instantiate`, `reply` and `execute`, the entry points that write storage.

`execute` first looks at the operational state.  A paused pool takes only the
messages of the configuration, and a frozen pool refuses to lend and to borrow.
-/

namespace DemocratizedPrime

open Result

/-! ## Instantiate -/

/-- The repo token of a new pool: one that exists, or one to be created. -/
inductive RepoTokenConfig
  | existing (repoTokenCw20ContractAddress : String)
  | new (repoTokenCodeId : Nat) (repoTokenName repoTokenSymbol : String)
      (repoTokenDecimals : Nat)

/-- What a pool is created from. -/
structure InstantiateMsg where
  contractName : String
  description : String
  repoToken : RepoTokenConfig
  lendingDenom : Denom
  rateParams : RateParamsV1
  lenderRequiredAttrs : List String
  borrowerRequiredAttrs : List String
  priceOracleAddress : String
  maxBorrowerCollateralTypes : Nat
  marginRate : Decimal256
  liquidationRate : Decimal256
  liquidationBonusRate : Decimal256
  minLend : Uint128
  minBorrow : Uint128
  supportedCollateralAssets : List CollateralAssetV1
  commitMarketId : Option Nat
  badDebtLossAllocation : BadDebtLossAllocation
  custodian : String
  liquidator : String
  maxLiquidationStalenessSeconds : Nat
  liquidationAccess : LiquidationAccess

/-- A letter or a hyphen. -/
def isSymbolChar (c : Char) : Bool :=
  c == '-' || (65 ≤ c.toNat && c.toNat ≤ 90) || (97 ≤ c.toNat && c.toNat ≤ 122)

/-- Name, symbol and decimals of a repo token, or the complaint about them. -/
def validateRepoTokenMeta (name symbol : String) (decimals : Nat) : Except String Unit := do
  ensure (3 ≤ name.utf8ByteSize ∧ name.utf8ByteSize ≤ 50) "name must be 3–50 UTF-8 bytes"
  ensure (3 ≤ symbol.utf8ByteSize ∧ symbol.utf8ByteSize ≤ 12) "symbol must be 3–12 bytes"
  ensure (symbol.toList.all isSymbolChar = true) "symbol must contain only [a-zA-Z\\-]"
  ensure (decimals ≤ 18) "decimals must not exceed 18"

/-- The repo token of a new pool: an address that exists already, or the request
for one that is created with the pool. -/
def bindRepoToken (deps : Deps) (pool owner : Addr) (contractName : String)
    (config : RepoTokenConfig) : ContractResult (Option Addr × Option InstantiateRequest) :=
  match config with
  | .existing address => do
    ensure (trim address ≠ "")
      (illegalArgument "repo_token_cw20_contract_address cannot be empty")
    let addr ← deps.addrValidate (trim address)
    return (some addr, none)
  | .new codeId name symbol decimals => do
    ensure (0 < codeId) (illegalArgument "repo_token_code_id must be greater than zero")
    match validateRepoTokenMeta (trim name) (trim symbol) decimals with
    | .error m => throw (illegalArgument s!"repo_token: {m}")
    | .ok () => return (none, some {
        admin := owner
        codeId
        name := trim name
        symbol := trim symbol
        decimals
        owner
        minter := pool
        poolAddress := some pool
        label := contractName ++ "-repo-token" })

/-- The collateral list of a new pool: each asset valid, none twice, and none
the lending denomination. -/
def checkSupportedCollateral (lendingDenom : Denom) :
    (assets : List CollateralAssetV1) → (seen : List String) → ContractResult Unit
  | [], _ => return ()
  | asset :: rest, seen => do
    asset.validate
    ensure (asset.assetId ≠ lendingDenom.name) (collateralAssetIsLendingDenom asset)
    ensure (seen.contains asset.assetId = false) (illegalArgument
      s!"Duplicate supported_collateral_assets entry for asset_id: {asset.assetId}")
    checkSupportedCollateral lendingDenom rest (asset.assetId :: seen)

/-- An empty reserve with both indexes at one. -/
def initialReserve (now : Timestamp) : ReserveStateV1 where
  liquidityIndex := Decimal256.one
  borrowIndex := Decimal256.one
  lastUpdatedAt := now
  totalScaledLiquidity := 0
  totalScaledBorrow := 0
  accruedReserve := 0
  deficitUnderlying := 0

/-- The storage of a new pool.  The sender becomes the owner.  With
`RepoTokenConfig.new` the host creates the token next and calls `reply`. -/
def instantiate (deps : Deps) (env : Env) (info : MessageInfo) (msg : InstantiateMsg) :
    ContractResult (PoolStorage × Response) := do
  msg.lendingDenom.validate
  msg.rateParams.validate
  checkSupportedCollateral msg.lendingDenom msg.supportedCollateralAssets []
  let (repoTokenCw20Address, newRepoToken) ← bindRepoToken deps env.contractAddress info.sender
    msg.contractName msg.repoToken
  ensure (trim msg.contractName ≠ "") (illegalArgument "contract_name cannot be empty")
  ensure (trim msg.priceOracleAddress ≠ "")
    (illegalArgument "price_oracle_address cannot be empty")
  let priceOracleAddress ← deps.addrValidate (trim msg.priceOracleAddress)
  checkAtLeastOne "min_lend" msg.minLend.val
  checkAtLeastOne "min_borrow" msg.minBorrow.val
  checkRates msg.marginRate msg.liquidationRate msg.liquidationBonusRate
    ("liquidation_bonus_rate * margin_rate must be < 1 (otherwise 1 - bonus*margin_rate " ++
      "underflows and liquidations are impossible; e.g. bonus=1.02 and margin_rate=0.99 is " ++
      "invalid)")
  checkAtLeastOne "max_borrower_collateral_types" msg.maxBorrowerCollateralTypes
  checkStaleness msg.maxLiquidationStalenessSeconds
  ensurePermissionlessConfig msg.liquidationAccess msg.maxLiquidationStalenessSeconds
    msg.badDebtLossAllocation 0
  checkAttrCount "lender" msg.lenderRequiredAttrs
  checkAttrCount "borrower" msg.borrowerRequiredAttrs
  validateRequiredAttrPatterns msg.lenderRequiredAttrs
  validateRequiredAttrPatterns msg.borrowerRequiredAttrs
  let custodian ← deps.addrValidate (trim msg.custodian)
  let liquidator ← deps.addrValidate (trim msg.liquidator)
  let contract : ContractStateV1 := {
    contractName := msg.contractName
    description := msg.description
    repoTokenCw20Address
    lendingDenom := msg.lendingDenom
    rateParams := msg.rateParams
    lenderRequiredAttrs := msg.lenderRequiredAttrs
    borrowerRequiredAttrs := msg.borrowerRequiredAttrs
    priceOracleAddress
    maxBorrowerCollateralTypes := msg.maxBorrowerCollateralTypes
    marginRate := msg.marginRate
    liquidationRate := msg.liquidationRate
    liquidationBonusRate := msg.liquidationBonusRate
    minLend := msg.minLend
    minBorrow := msg.minBorrow
    supportedCollateralAssets := msg.supportedCollateralAssets
    operationalState := .active
    commitMarketId := msg.commitMarketId
    badDebtLossAllocation := msg.badDebtLossAllocation
    custodian := some custodian
    liquidator := some liquidator
    maxLiquidationStalenessSeconds := msg.maxLiquidationStalenessSeconds
    liquidationAccess := msg.liquidationAccess }
  let res := Response.new.addText "action" "instantiate"
    |>.addAttribute "rate_params_json" (.rateParams contract.rateParams)
  let res := match newRepoToken with
    | none => res
    | some request => res.addMessage (.wasmInstantiate request)
  return ({
    contract
    reserve := initialReserve env.blockTime
    ownership := Ownership.initializeOwner info.sender
    scaledBorrow := ∅
    borrowerCollateral := ∅
    totalCollateralByAsset := ∅
    directedSaleOffer := ∅
    directedSaleVersion := ∅
    borrowerRequireCommit := ∅
    lenderRequireCommitOnExit := ∅ }, res)

/-- The address of the repo token that the host created, or its complaint. -/
def reply (deps : Deps) (store : PoolStorage) (created : Except String String) :
    ContractResult (PoolStorage × Response) :=
  match created with
  | .error err =>
    throw (illegalState s!"repo token instantiate submessage failed: {err}")
  | .ok address => do
    let addr ← deps.addrValidate (trim address)
    ensure (store.contract.repoTokenCw20Address = none)
      (illegalState "repo token already bound; unexpected instantiate reply")
    let res := Response.new.addText "action" "repo_token_instantiated"
      |>.addText "repo_token_cw20_address" addr
    return (store.setContractStateV1 { store.contract with repoTokenCw20Address := some addr },
      res)

/-! ## Execute -/

/-- The messages of the pool. -/
inductive ExecuteMsg
  | updateOwnership (action : OwnershipAction)
  | lend
  | receive (cw20Msg : Cw20ReceiveMsg)
  | borrow (amount : Uint128)
  | repay
  | addCollateral
  | removeCollateral (toRemove : Amounts)
  | adjustDirectedCollateralSale (adjustments : Std.ExtTreeMap String Int128)
      (expiresAt : Timestamp) (version : Uint64)
  | liquidate (borrower : String) (collateralToSeize : Amounts)
  | updateSupportedCollateral (toUpdate : List CollateralAssetV1) (toRemove : List String)
  | withdrawReserve (recipient : Option String)
  | eliminateDeficit (funding : EliminateDeficitFunding)
  | socializeDeficit (maxAmount : Uint128)
  | setOperationalState (state : OperationalState)
  | setLenderRequiredAttrs (lenderRequiredAttrs : List String)
  | setBorrowerRequiredAttrs (borrowerRequiredAttrs : List String)
  | updateContractConfig (params : UpdateContractConfigParams)
  | updateRateParams (rateParams : RateParamsV1)
  | setBorrowerRequireCommit (address : String) (require : Option Bool)
  | setLenderRequireCommitOnExit (address : String) (require : Option Bool)
  | withdraw (lender : String) (amount : Option Uint128) (commitFunds : Option Bool)

/-- The messages that a paused pool takes. -/
def ExecuteMsg.allowedWhenPaused : ExecuteMsg → Bool
  | .updateSupportedCollateral .. | .setOperationalState .. | .updateOwnership ..
  | .setLenderRequiredAttrs .. | .setBorrowerRequiredAttrs .. | .setBorrowerRequireCommit ..
  | .setLenderRequireCommitOnExit .. | .updateContractConfig .. | .updateRateParams .. => true
  | _ => false

/-- The two messages that a frozen pool refuses. -/
def ExecuteMsg.isLendOrBorrow : ExecuteMsg → Bool
  | .lend | .borrow .. => true
  | _ => false

/-- The handler of a message. -/
def dispatch (deps : Deps) (store : PoolStorage) (env : Env) (info : MessageInfo) :
    ExecuteMsg → ContractResult (PoolStorage × Response)
  | .updateOwnership action => updateOwnership deps store env info action
  | .lend => lend deps store env info
  | .receive cw20Msg => receive deps store env info cw20Msg
  | .borrow amount => borrow deps store env info amount
  | .repay => repay store env info
  | .addCollateral => addCollateral deps store env info
  | .removeCollateral toRemove => removeCollateral deps store env info toRemove
  | .adjustDirectedCollateralSale adjustments expiresAt version =>
    adjustDirectedCollateralSale store env info adjustments expiresAt version
  | .liquidate borrower collateralToSeize =>
    liquidate deps store env info borrower collateralToSeize
  | .updateSupportedCollateral toUpdate toRemove =>
    updateSupportedCollateral store info toUpdate toRemove
  | .withdrawReserve recipient => withdrawReserve deps store env info recipient
  | .eliminateDeficit funding => eliminateDeficit store env info funding
  | .socializeDeficit maxAmount => socializeDeficit store env info maxAmount
  | .setOperationalState state => setOperationalState store info state
  | .setLenderRequiredAttrs attrs => setLenderRequiredAttrs store info attrs
  | .setBorrowerRequiredAttrs attrs => setBorrowerRequiredAttrs store info attrs
  | .updateContractConfig params => updateContractConfig deps store info params
  | .updateRateParams rateParams => updateRateParams store env info rateParams
  | .setBorrowerRequireCommit address require =>
    setBorrowerRequireCommit deps store info address require
  | .setLenderRequireCommitOnExit address require =>
    setLenderRequireCommitOnExit deps store info address require
  | .withdraw lender amount commitFunds =>
    executeWithdraw deps store env info lender amount commitFunds

/-- The entry point: the gates of the operational state, and then the handler. -/
def execute (deps : Deps) (store : PoolStorage) (env : Env) (info : MessageInfo)
    (msg : ExecuteMsg) : ContractResult (PoolStorage × Response) := do
  ensure (msg.allowedWhenPaused = true ∨ store.contract.operationalState ≠ .paused)
    (illegalState
      "Contract is paused; only custodian config updates and ownership transfer is allowed")
  ensure (store.contract.operationalState ≠ .frozen ∨ msg.isLendOrBorrow = false)
    (illegalState "Contract is frozen; lend and borrow are disabled")
  dispatch deps store env info msg

theorem execute_eq_ok {deps : Deps} {store : PoolStorage} {env : Env} {info : MessageInfo}
    {msg : ExecuteMsg} {out : PoolStorage × Response}
    (h : execute deps store env info msg = .ok out) :
    dispatch deps store env info msg = .ok out := by
  simp only [execute, bind_eq_ok, ensure_eq_ok, exists_const] at h
  exact h.2.2

end DemocratizedPrime
