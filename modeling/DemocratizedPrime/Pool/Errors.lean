import DemocratizedPrime.Pool.Steps

/-!
# Which errors a function can return

The accrual, the rates and the conversions end with the errors of arithmetic only,
`IsArithmetic`: a result that does not fit, or an index or a total of zero.  The lemmas
`arithmetic_*` say so of each of these functions, for every property that the errors of
arithmetic have (`HoldsOfArithmetic`).

The pool reports an underflow of one of its totals by an illegal-state error with a text of
its own, one of `ledgerUnderflows`.  None of them is an error of arithmetic.  The lemmas
`noUnderflow_*` say of the functions around the arithmetic that they cannot return such an
error, whatever they are called with.  What is left for an invariant to rule out is the line
of a message that takes an amount out of a total.
-/

namespace DemocratizedPrime

open Result Decimal256

/-! ## Errors of arithmetic -/

/-- The texts with which the rates and the conversions refuse. -/
def conversionRefusals : List String :=
  ["protocol fee overflow", "liquidity_index is zero", "borrow_index is zero",
    "scaled liquidity overflow", "scaled borrow overflow", "underlying liquidity overflow",
    "underlying borrow overflow", "ceiled underlying borrow overflow",
    "cannot apply liquidity index haircut: total_liquidity is zero",
    "bad debt loss meets or exceeds total_liquidity; cannot apply index-only haircut",
    "cannot apply liquidity index haircut: total_scaled_liquidity is zero",
    "liquidity index haircut would truncate liquidity_index to zero"]

/-- An error of a checked operation, of a ratio, of an operator that panics, or of a conversion. -/
def IsArithmetic (e : ContractError) : Prop :=
  (∃ op, e = .overflowError op) ∨ (∃ kind, e = .checkedFromRatioError kind) ∨
    (∃ reason, e = .aborted reason) ∨ ∃ m ∈ conversionRefusals, e = illegalState m

section Kinds

@[simp] theorem isArithmetic_overflowError {op : OverflowOperation} :
    IsArithmetic (.overflowError op) := Or.inl ⟨op, rfl⟩
@[simp] theorem isArithmetic_fromRatio {kind : CheckedFromRatioError} :
    IsArithmetic (.checkedFromRatioError kind) := Or.inr (Or.inl ⟨kind, rfl⟩)
@[simp] theorem isArithmetic_aborted {reason : String} : IsArithmetic (.aborted reason) :=
  Or.inr (Or.inr (Or.inl ⟨reason, rfl⟩))
@[simp] theorem isArithmetic_illegalState {m : String} :
    IsArithmetic (illegalState m) ↔ m ∈ conversionRefusals := by
  simp [IsArithmetic, illegalState]

end Kinds

/-- A property that every error of arithmetic has. -/
class HoldsOfArithmetic (P : ContractError → Prop) : Prop where
  holds : ∀ e, IsArithmetic e → P e

instance : HoldsOfArithmetic IsArithmetic := ⟨fun _ h => h⟩

section Arithmetic

variable {P : ContractError → Prop} [HoldsOfArithmetic P]

/-- Code with the errors of arithmetic alone has only errors with that property. -/
theorem AllErrors.ofArithmetic {α : Type} {x : ContractResult α} (h : AllErrors IsArithmetic x) :
    AllErrors P x := h.mono HoldsOfArithmetic.holds

variable (a b : Decimal256) (n d : Nat)

@[simp] theorem arithmetic_checkedAdd : AllErrors P (a.checkedAdd b) :=
  AllErrors.ofArithmetic (by simp [checkedAdd])
@[simp] theorem arithmetic_checkedSub : AllErrors P (a.checkedSub b) :=
  AllErrors.ofArithmetic (by simp [checkedSub])
@[simp] theorem arithmetic_checkedMul : AllErrors P (a.checkedMul b) :=
  AllErrors.ofArithmetic (by simp [checkedMul])
@[simp] theorem arithmetic_checkedDiv : AllErrors P (a.checkedDiv b) :=
  AllErrors.ofArithmetic (by simp [checkedDiv, checkedFromRatio])
@[simp] theorem arithmetic_fromRatio : AllErrors P (fromRatio n d) :=
  AllErrors.ofArithmetic (by simp [fromRatio])
@[simp] theorem arithmetic_addOrAbort : AllErrors P (a.addOrAbort b) :=
  AllErrors.ofArithmetic (by simp [addOrAbort])

/-! ## Rates and conversions -/

variable (params : RateParamsV1) (r : ReserveStateV1) (amount : Uint128)

@[simp] theorem arithmetic_totalLiquidity : AllErrors P r.totalLiquidity := by
  simp [ReserveStateV1.totalLiquidity]
@[simp] theorem arithmetic_totalBorrow : AllErrors P r.totalBorrow := by
  simp [ReserveStateV1.totalBorrow]
@[simp] theorem arithmetic_utilization : AllErrors P r.utilization := by
  simp [ReserveStateV1.utilization]

@[simp] theorem arithmetic_borrowerRate : AllErrors P (borrowerRateFromUtilization params a) := by
  simp [borrowerRateFromUtilization, rateBelowKink, rateAboveKink]
@[simp] theorem arithmetic_lenderRate : AllErrors P (lenderRateFromUtilization params a b) := by
  unfold lenderRateFromUtilization
  split <;> simp
@[simp] theorem arithmetic_protocolFeeRate : AllErrors P (protocolFeeRate params a) := by
  unfold protocolFeeRate
  split <;> simp

@[simp] theorem arithmetic_attachRates (res : Response) :
    AllErrors P (res.attachRates r params) := by
  simp [Response.attachRates]

@[simp] theorem arithmetic_computeEffectiveReserve (s : PoolStorage) (t : Timestamp) :
    AllErrors P (computeEffectiveReserve s t params) := by
  apply AllErrors.ofArithmetic
  simp [computeEffectiveReserve, accrueInterest, indexGrowthFactor, protocolFee,
    decimalFloorToU128, conversionRefusals]
@[simp] theorem arithmetic_updateReserveIndexes (s : PoolStorage) (env : Env) :
    AllErrors P (updateReserveIndexes s env params) := by
  simp [updateReserveIndexes]

@[simp] theorem arithmetic_underlyingToScaledLiquidity :
    AllErrors P (underlyingToScaledLiquidity amount a) := by
  apply AllErrors.ofArithmetic
  simp [underlyingToScaledLiquidity, underlyingToScaled, conversionRefusals]
@[simp] theorem arithmetic_underlyingToScaledBorrow :
    AllErrors P (underlyingToScaledBorrow amount a) := by
  apply AllErrors.ofArithmetic
  simp [underlyingToScaledBorrow, underlyingToScaled, conversionRefusals]
@[simp] theorem arithmetic_underlyingToScaledBorrowCeil :
    AllErrors P (underlyingToScaledBorrowCeil amount a) := by
  apply AllErrors.ofArithmetic
  simp [underlyingToScaledBorrowCeil, conversionRefusals]
@[simp] theorem arithmetic_scaledToUnderlyingLiquidity :
    AllErrors P (scaledToUnderlyingLiquidity amount a) := by
  apply AllErrors.ofArithmetic
  simp [scaledToUnderlyingLiquidity, scaledToUnderlying, conversionRefusals]
@[simp] theorem arithmetic_scaledToUnderlyingBorrow :
    AllErrors P (scaledToUnderlyingBorrow amount a) := by
  apply AllErrors.ofArithmetic
  simp [scaledToUnderlyingBorrow, scaledToUnderlying, conversionRefusals]
@[simp] theorem arithmetic_scaledToUnderlyingBorrowCeil :
    AllErrors P (scaledToUnderlyingBorrowCeil amount a) := by
  apply AllErrors.ofArithmetic
  simp [scaledToUnderlyingBorrowCeil, conversionRefusals]

@[simp] theorem arithmetic_reserveTotals : AllErrors P (reserveTotalsAndCashU128 r) := by
  simp [reserveTotalsAndCashU128]
@[simp] theorem arithmetic_haircut :
    AllErrors P (applyProRataLiquidityIndexHaircut r amount) := by
  apply AllErrors.ofArithmetic
  simp [applyProRataLiquidityIndexHaircut, conversionRefusals]

end Arithmetic

/-- A commitment is refused only without a market. -/
theorem addCommitMessage_errors (res : Response) (cf : Bool) (contract : ContractStateV1)
    (pool account : Addr) (action : String) (funds : List Coin) :
    AllErrors (fun e => e = illegalArgument "commit_market_id is not configured on the contract")
      (addCommitMessage res cf contract pool action account funds) := by
  simp [addCommitMessage, newCommitMessage]

/-! ## The underflow of a total -/

/-- The texts of the errors that an underflow of a total raises. -/
def ledgerUnderflows : List String :=
  ["underflow: total_scaled_borrow - scaled_repay", "total_scaled_borrow underflow",
    "total collateral by asset would underflow",
    "underflow: total_scaled_liquidity - scaled_to_burn"]

/-- An error that does not report the underflow of a total. -/
def NotUnderflow (e : ContractError) : Prop := ∀ m ∈ ledgerUnderflows, e ≠ illegalState m

/-- Code that cannot report the underflow of a total. -/
abbrev NoUnderflow {α : Type} (x : ContractResult α) : Prop := AllErrors NotUnderflow x

section Kinds

@[simp] theorem notUnderflow_illegalState {m : String} :
    NotUnderflow (illegalState m) ↔ m ∉ ledgerUnderflows := by
  simp only [NotUnderflow, illegalState, ne_eq, ContractError.illegalStateError.injEq]
  exact ⟨fun h hm => h m hm rfl, fun h m' hm' he => h (he ▸ hm')⟩

@[simp] theorem notUnderflow_illegalArgument (m : String) : NotUnderflow (illegalArgument m) := by
  simp [NotUnderflow, illegalState, illegalArgument]
@[simp] theorem notUnderflow_notFound (m : String) : NotUnderflow (notFound m) := by
  simp [NotUnderflow, illegalState, notFound]
@[simp] theorem notUnderflow_notAuthorized (m : String) : NotUnderflow (notAuthorized m) := by
  simp [NotUnderflow, illegalState, notAuthorized]
@[simp] theorem notUnderflow_invalidFunds (m : String) : NotUnderflow (invalidFunds m) := by
  simp [NotUnderflow, illegalState, invalidFunds]
@[simp] theorem notUnderflow_std (m : String) : NotUnderflow (.std m) := by
  simp [NotUnderflow, illegalState]
@[simp] theorem notUnderflow_overflow (m : String) : NotUnderflow (.overflow m) := by
  simp [NotUnderflow, illegalState]
@[simp] theorem notUnderflow_notAuthorizedError (m : String) :
    NotUnderflow (.notAuthorizedError m) := by
  simp [NotUnderflow, illegalState]
@[simp] theorem notUnderflow_stale (a : String) (t : Nat) :
    NotUnderflow (.stalePriceDataError a t) := by
  simp [NotUnderflow, illegalState]

end Kinds

/-- Arithmetic does not report the underflow of a total. -/
instance : HoldsOfArithmetic NotUnderflow where
  holds := by
    rintro e (⟨op, rfl⟩ | ⟨kind, rfl⟩ | ⟨reason, rfl⟩ | ⟨m, hm, rfl⟩)
    · simp [NotUnderflow, illegalState]
    · simp [NotUnderflow, illegalState]
    · simp [NotUnderflow, illegalState]
    · have hother : ∀ m ∈ conversionRefusals, m ∉ ledgerUnderflows := by decide
      exact notUnderflow_illegalState.mpr (hother m hm)

@[simp] theorem notUnderflow_overflowError (op : OverflowOperation) :
    NotUnderflow (.overflowError op) := HoldsOfArithmetic.holds _ isArithmetic_overflowError

/-! ## Checks and prices -/

section Checks

variable (deps : Deps) (contract : ContractStateV1) (info : MessageInfo)

@[simp] theorem noUnderflow_fromStd {α : Type} (x : StdResult α) : NoUnderflow (fromStd x) := by
  cases x <;> simp [fromStd]

@[simp] theorem noUnderflow_addrValidate (a : String) : NoUnderflow (deps.addrValidate a) := by
  unfold Deps.addrValidate
  split <;> simp

@[simp] theorem noUnderflow_validateSingleCoinDenom (d : Denom) (min : Uint128) :
    NoUnderflow (validateSingleCoinDenom info d min) := by
  unfold validateSingleCoinDenom
  split <;> simp

@[simp] theorem noUnderflow_addCommitMessage (res : Response) (cf : Bool) (pool account : Addr)
    (action : String) (funds : List Coin) :
    NoUnderflow (addCommitMessage res cf contract pool action account funds) :=
  (addCommitMessage_errors res cf contract pool account action funds).mono fun _ he =>
    he ▸ notUnderflow_illegalArgument _

@[simp] theorem noUnderflow_assertOwner (o : Ownership) (sender : Addr) (m : String) :
    NoUnderflow (o.assertOwner sender m) := by
  simp [Ownership.assertOwner]

@[simp] theorem noUnderflow_repoTokenAddr : NoUnderflow contract.repoTokenAddr := by
  simp [ContractStateV1.repoTokenAddr, ledgerUnderflows]

theorem noUnderflow_scan (account suffix : String) (pages : Nat) (key : String) :
    NoUnderflow (scanHasWildcardMatch deps account suffix pages key) := by
  induction pages generalizing key with
  | zero => simp [scanHasWildcardMatch]
  | succ pages ih =>
    simp only [scanHasWildcardMatch, allErrors_bind, noUnderflow_fromStd, allErrors_ite,
      allErrors_pure, true_and, implies_true]
    intro page _ _
    split
    · exact ih _
    · simp

theorem noUnderflow_validateAccountAttrs (account : String) (attrs : List String)
    (role : String) : NoUnderflow (validateAccountAttrs deps account attrs role) := by
  refine AllErrors.forM (fun attr => ?_) _
  have hattr : NoUnderflow (accountHasRequiredAttribute deps account attr) := by
    unfold accountHasRequiredAttribute
    split
    · exact noUnderflow_scan deps _ _ _ _
    · simp
  simp [requireAttribute, hattr]

@[simp] theorem noUnderflow_validateLenderAttrs (sender : String) (attrs : List String) :
    NoUnderflow (validateLenderAttrs deps sender attrs) :=
  noUnderflow_validateAccountAttrs deps sender attrs "lender"

@[simp] theorem noUnderflow_validateBorrowerAttrs (sender : String) (attrs : List String) :
    NoUnderflow (validateBorrowerAttrs deps sender attrs) :=
  noUnderflow_validateAccountAttrs deps sender attrs "borrower"

@[simp] theorem noUnderflow_getPriceFromOracle (oracle : Addr) (assets : List String)
    (skip : Bool) : NoUnderflow (getPriceFromOracle deps oracle assets skip) := by
  refine AllErrors.foldlM (fun prices asset => ?_) _ _
  simp only [Deps.addOraclePrice, allErrors_bind, noUnderflow_fromStd, true_and]
  intro price _
  split <;> simp

@[simp] theorem noUnderflow_valueUsd (p : AssetPriceResponseV1) (a : Uint128) :
    NoUnderflow (p.valueUsd a) := by
  simp [AssetPriceResponseV1.valueUsd, uint256]

@[simp] theorem noUnderflow_collateralValue (c : Amounts) (prices : PriceMap)
    (sup : List CollateralAssetV1) :
    NoUnderflow (calculateTotalCollateralValueUsd c prices sup) := by
  refine AllErrors.foldlM (fun total entry => ?_) _ _
  unfold addCollateralValue
  split <;> simp

@[simp] theorem noUnderflow_getBorrowerHealth (sup : List CollateralAssetV1)
    (prices : PriceMap) (c : Amounts) (debt : Uint128) :
    NoUnderflow (getBorrowerHealth contract sup prices c debt) := by
  simp [getBorrowerHealth, calculateLtv, calculateBorrowValueUsd]

@[simp] theorem noUnderflow_getAssetPricesForBorrower (now : Timestamp) (c : Amounts) :
    NoUnderflow (getAssetPricesForBorrower deps now contract c) := by
  simp [getAssetPricesForBorrower, dropUnpriceableCollateral]

@[simp] theorem noUnderflow_getAssetPricesForLiquidation (now : Timestamp) (c : Amounts) :
    NoUnderflow (getAssetPricesForLiquidation deps now contract c) := by
  simp [getAssetPricesForLiquidation, dropUnpriceableForLiquidation]

@[simp] theorem noUnderflow_validateBorrowerIsHealthy (b : BorrowerHealth) :
    NoUnderflow (validateBorrowerIsHealthy b contract) := by
  simp [validateBorrowerIsHealthy, unhealthyError, formatAsPercentString]

end Checks

/-! ## Stages of the messages -/

section Stages

variable (deps : Deps) (s : PoolStorage) (env : Env) (info : MessageInfo)

/-- Amounts that are taken out under a text of their own. -/
theorem noUnderflow_takeAmount {m : Amounts} {asset : String} {amount : Uint128}
    {e : ContractError} (he : NotUnderflow e) : NoUnderflow (takeAmount m asset amount e) := by
  simp [takeAmount, he]

@[simp] theorem noUnderflow_liquidationTarget (borrower : String) (seize : Amounts) :
    NoUnderflow (liquidationTarget deps s env info borrower seize) := by
  have haccess : NoUnderflow (checkLiquidationAccess s.contract info.sender) := by
    unfold checkLiquidationAccess
    split <;> simp [assertLiquidator]
  simp [liquidationTarget, haccess]

@[simp] theorem noUnderflow_planLiquidation (o : Ownership) (c : ContractStateV1)
    (t : LiquidationTarget) (seize : Amounts) :
    NoUnderflow (planLiquidation o c info t seize) := by
  have hseized : ∀ total entry,
      NoUnderflow (addSeizedValue c t.collateral t.quoted total entry) := by
    simp [addSeizedValue]
  have hmarket : ∀ total entry, NoUnderflow (addMarketValue t.quoted total entry) := by
    intro total entry
    unfold addMarketValue
    simp only [allErrors_ite, allErrors_pure, implies_true, true_and]
    intro _
    split <;> simp
  have hentry : ∀ amounts entry, NoUnderflow (seizeEntry amounts entry) :=
    fun _ _ => noUnderflow_takeAmount (by simp [ledgerUnderflows])
  have hgate : ∀ bad post, NoUnderflow (requireOwnerForUnpriceable o info.sender c t.quoted
      t.collateral t.debtUnderlying bad post t.directedFill) := by
    intro bad post
    unfold requireOwnerForUnpriceable
    split <;> simp [loadBearing, unpriceableIsLoadBearing, -String.reduceAppend]
  have hhealth : ∀ post new bad, NoUnderflow (checkPostHealth c t.reserve t.quoted.prices post
      new bad) := by
    simp [checkPostHealth, formatAsPercentString]
  have hrepay : ∀ a, NoUnderflow (scaledRepayFor a t.debtPayoff t.scaledDebt
      t.reserve.borrowIndex) := by
    simp [scaledRepayFor]
  simp [planLiquidation, checkSeizeNotEmpty, badDebtLoss, hgate, hhealth, hrepay, ledgerUnderflows,
    AllErrors.foldlM hseized, AllErrors.foldlM hmarket, AllErrors.foldlM hentry]

end Stages

end DemocratizedPrime
