import DemocratizedPrime.Pool.Invariants.Ledgers
import DemocratizedPrime.Pool.TokenCalls

/-!
# No message underflows a total

`Pool.Invariants.Underflow` looks at the messages that take debts and collateral out of
the totals.  This module adds the withdrawals, which take scaled units out, and the
messages that take nothing out, and puts them together: `noUnderflow_dispatch`.

What a withdrawal may burn is bounded by the repo token, so here it is an assumption: the
balance that the token reports, or the units that it has handed over, are part of the
total.
-/

namespace DemocratizedPrime

open Result

variable {s : PoolStorage} (deps : Deps) (env : Env) (info : MessageInfo)

/-! ## Messages that take nothing out -/

section Checks

variable (contract : ContractStateV1)

@[simp] theorem notUnderflow_ownership (e : OwnershipError) : NotUnderflow (.ownership e) := by
  simp [NotUnderflow, illegalState]

@[simp] theorem notUnderflow_noFundsAccepted : NotUnderflow noFundsAccepted := by
  simp [noFundsAccepted]

@[simp] theorem noUnderflow_ownershipUpdate (o : Ownership) (action : OwnershipAction) :
    NoUnderflow (o.update deps env info action) := by
  have hcheck : NoUnderflow (o.checkOwner info.sender) := by
    unfold Ownership.checkOwner
    split <;> simp
  cases action <;> simp [Ownership.update, Ownership.transfer, Ownership.accept, hcheck]

@[simp] theorem noUnderflow_assertCustodian (sender : Addr) (m : String) :
    NoUnderflow (assertCustodian contract sender m) := by
  simp [assertCustodian]

@[simp] theorem noUnderflow_validateRates (params : RateParamsV1) :
    NoUnderflow params.validate := by
  have hfee : NoUnderflow params.validateFeeModel := by
    unfold RateParamsV1.validateFeeModel
    split <;> simp
  simp [RateParamsV1.validate, hfee]

@[simp] theorem noUnderflow_validateAsset (asset : CollateralAssetV1) :
    NoUnderflow asset.validate := by
  unfold CollateralAssetV1.validate
  simp only [allErrors_bind, allErrors_ensure, notUnderflow_illegalArgument, implies_true,
    true_and]
  intro _ _
  split <;> simp

theorem noUnderflow_checkDistinctAssetIds (ids seen : List String) :
    NoUnderflow (checkDistinctAssetIds ids seen) := by
  induction ids generalizing seen with
  | nil => exact allErrors_ok
  | cons id rest ih => simp [checkDistinctAssetIds, ih]

theorem noUnderflow_newValue {α β : Type} {update : Option α} {old : β}
    {check : α → ContractResult β} (h : ∀ a, NoUnderflow (check a)) :
    NoUnderflow (newValue update old check) := by
  cases update with
  | none => exact allErrors_ok
  | some a => exact h a

end Checks

section Messages

theorem noUnderflow_updateOwnership (action : OwnershipAction) :
    NoUnderflow (updateOwnership deps s env info action) := by
  simp [updateOwnership]

theorem noUnderflow_lend : NoUnderflow (lend deps s env info) := by
  simp [lend, ledgerUnderflows]

theorem noUnderflow_borrow (amount : Uint128) : NoUnderflow (borrow deps s env info amount) := by
  have hdebt : ∀ debt a bi, NoUnderflow (debtAfterBorrow debt a bi) := by
    simp [debtAfterBorrow, ledgerUnderflows]
  simp [borrow, hdebt, ledgerUnderflows]

theorem noUnderflow_requireFreshAssetPrices (oracle : Addr) (assets : List String) :
    NoUnderflow (requireFreshAssetPrices deps env.blockTime oracle assets) := by
  have hfresh : ∀ prices, NoUnderflow (forM assets (requireFreshPrice prices env.blockTime)) := by
    intro prices
    refine AllErrors.forM (fun asset => ?_) assets
    simp [requireFreshPrice]
  simp [requireFreshAssetPrices, hfresh]

theorem noUnderflow_addCollateral : NoUnderflow (addCollateral deps s env info) := by
  have hcoins : NoUnderflow (forM info.funds (checkCollateralCoin s.contract)) := by
    refine AllErrors.forM (fun coin => ?_) info.funds
    simp [checkCollateralCoin]
  have hlimit : ∀ held max,
      NoUnderflow (validateBorrowerCollateralTypeLimit info.funds held max) := by
    simp [validateBorrowerCollateralTypeLimit, ledgerUnderflows]
  have hheld : ∀ held coin, NoUnderflow (addCollateralCoin held coin) := by
    simp [addCollateralCoin, ledgerUnderflows]
  have htotal : ∀ store coin, NoUnderflow (addTotalCollateralCoin store coin) := by
    simp [addTotalCollateralCoin, PoolStorage.addTotalCollateral, ledgerUnderflows]
  simp [addCollateral, hcoins, hlimit, noUnderflow_requireFreshAssetPrices, AllErrors.foldlM hheld,
    AllErrors.foldlM htotal]

theorem noUnderflow_adjustDirectedCollateralSale (adjustments : Std.ExtTreeMap String Int128)
    (expiresAt : Timestamp) (version : Uint64) :
    NoUnderflow (adjustDirectedCollateralSale s env info adjustments expiresAt version) := by
  have hentry : ∀ acc entry, NoUnderflow
      (adjustEntry s.contract (s.getBorrowerCollateral info.sender) acc entry) := by
    simp [adjustEntry, increaseOffer]
  simp [adjustDirectedCollateralSale, checkIncreaseAllowed, adjustedExpiry, ledgerUnderflows,
    AllErrors.foldlM hentry]

theorem noUnderflow_updateSupportedCollateral (toUpdate : List CollateralAssetV1)
    (toRemove : List String) :
    NoUnderflow (updateSupportedCollateral s info toUpdate toRemove) := by
  have hupdate : ∀ c asset, NoUnderflow (updateCollateralAsset c asset) := by
    simp [updateCollateralAsset, collateralAssetIsLendingDenom]
  have hremove : ∀ l : List String, NoUnderflow (forM l (checkNotInUse s)) := by
    intro l
    refine AllErrors.forM (fun asset => ?_) l
    simp only [checkNotInUse, allErrors_ensure, notUnderflow_illegalState]
    intro _ hmem
    have hhead : ∀ m ∈ ledgerUnderflows, m.toList.head? ≠ some 'C' := by decide
    refine hhead _ hmem ?_
    rw [String.toList_append, String.toList_append]
    rfl
  simp [updateSupportedCollateral, noUnderflow_checkDistinctAssetIds, AllErrors.foldlM hupdate,
    hremove]

theorem noUnderflow_withdrawReserve (recipient : Option String) :
    NoUnderflow (withdrawReserve deps s env info recipient) := by
  have hrecipient : NoUnderflow (reserveRecipient deps s recipient) := by
    unfold reserveRecipient
    split <;> simp [Ownership.currentOwner, ledgerUnderflows]
  simp [withdrawReserve, hrecipient, ledgerUnderflows]

theorem noUnderflow_eliminateDeficit (funding : EliminateDeficitFunding) :
    NoUnderflow (eliminateDeficit s env info funding) := by
  have hfund : ∀ store c r res, NoUnderflow (fundElimination store info c r res funding) := by
    intro store c r res
    cases funding <;>
      simp [fundElimination, eliminateFromReserve, eliminateFromBank, ledgerUnderflows]
  simp [eliminateDeficit, hfund]

theorem noUnderflow_socializeDeficit (maxAmount : Uint128) :
    NoUnderflow (socializeDeficit s env info maxAmount) := by
  simp [socializeDeficit, ledgerUnderflows]

theorem noUnderflow_setOperationalState (state : OperationalState) :
    NoUnderflow (setOperationalState s info state) := by
  simp [setOperationalState, assertOwnerOrCustodian]

theorem noUnderflow_checkRequiredAttrs (c : ContractStateV1) (role : String) (attrs : List String) :
    NoUnderflow (checkRequiredAttrs c info role attrs) := by
  have hpatterns : NoUnderflow (validateRequiredAttrPatterns attrs) := by
    refine AllErrors.forM (fun attr => ?_) attrs
    unfold validateRequiredAttrPattern
    simp only [allErrors_bind, allErrors_ensure, allErrors_ite, allErrors_pure,
      notUnderflow_illegalArgument, implies_true, and_true, true_and]
    intro _ _ _ _ _
    split <;> simp
  simp [checkRequiredAttrs, checkAttrCount, hpatterns]

theorem noUnderflow_updateContractConfig (params : UpdateContractConfigParams) :
    NoUnderflow (updateContractConfig deps s info params) := by
  have happly : NoUnderflow (applyConfigParams deps s.reserve s.contract params) := by
    have hpure {α : Type} (a : α) : NoUnderflow (pure a : ContractResult α) := allErrors_pure
    have hrate : ∀ old v, NoUnderflow (checkLiquidationRate old v) := by
      simp [checkLiquidationRate]
    have horacle : ∀ a, NoUnderflow (checkOracleAddress deps a) := by
      simp [checkOracleAddress]
    have hmin : ∀ field v, NoUnderflow (checkMinAmount field v) := by
      simp [checkMinAmount, checkAtLeastOne]
    have hmax : ∀ v, NoUnderflow (checkMaxTypes v) := by
      simp [checkMaxTypes, checkAtLeastOne]
    have halloc : ∀ r old v, NoUnderflow (checkAllocation r old v) := by
      simp [checkAllocation]
    have hrole : ∀ a, NoUnderflow (checkRoleAddress deps a) := by
      simp [checkRoleAddress]
    simp [applyConfigParams, noUnderflow_newValue, hpure, hrate, horacle, hmin, hmax, halloc,
      hrole]
  have hperm : ∀ access staleness alloc deficit,
      NoUnderflow (ensurePermissionlessConfig access staleness alloc deficit) := by
    intro access staleness alloc deficit
    cases access <;> simp [ensurePermissionlessConfig]
  have hbonus : ∀ bonus margin m, NoUnderflow (checkBonusTimesMargin bonus margin m) := by
    intro bonus margin m
    unfold checkBonusTimesMargin
    split <;> simp
  simp [updateContractConfig, happly, hperm, hbonus, checkRates, checkStaleness]

theorem noUnderflow_updateRateParams (rateParams : RateParamsV1) :
    NoUnderflow (updateRateParams s env info rateParams) := by
  simp [updateRateParams]

theorem noUnderflow_checkCommitRule (address : String) (require : Option Bool)
    (notOwner noMarket : String) :
    NoUnderflow (checkCommitRule deps s info address require notOwner noMarket) := by
  simp [checkCommitRule]

end Messages

/-! ## Withdrawals -/

/-- The scaled total covers what is burned. -/
theorem noUnderflow_deductScaledLiquidityAndSave {r : ReserveStateV1} {burned : Uint128}
    (h : burned.val ≤ r.totalScaledLiquidity.val) :
    NoUnderflow (deductScaledLiquidityAndSave s r burned) := by
  have hsub : r.totalScaledLiquidity.checkedSub burned ≠ none := by
    rw [ne_eq, Uint.checkedSub_eq_none]
    omega
  simp [deductScaledLiquidityAndSave, hsub]

/-- The owner burns at most the balance: the units of an amount that is at most the
value of the balance are at most the balance. -/
theorem ownerWithdraw_burned_le {amount : Option Uint128} {bal max cash : Uint128}
    {li : Decimal256} {w : WithdrawAmounts}
    (hmax : max.val = bal.val * li.atomics / decimalFractional)
    (h : ownerWithdrawAmounts amount bal max cash li = .ok w) : w.scaledToBurn.val ≤ bal.val := by
  rcases (ownerWithdrawAmounts_spec h).2 with ⟨-, hall, -⟩ | ⟨amt, -, hamt, -, hburn⟩
  · rw [hall]
  · rw [hburn]
    have hvalue : amt.val * decimalFractional ≤ bal.val * li.atomics := by
      calc amt.val * decimalFractional
          ≤ bal.val * li.atomics / decimalFractional * decimalFractional :=
            Nat.mul_le_mul_right _ (hmax ▸ hamt)
        _ ≤ bal.val * li.atomics := Nat.div_mul_le_self _ _
    exact Nat.div_le_of_le_mul (by rwa [Nat.mul_comm li.atomics])

theorem noUnderflow_executeWithdraw {lender : String} {amount : Option Uint128}
    {cf : Option Bool} (h : ∀ token bal, s.contract.repoTokenCw20Address = some token →
      deps.scaledBalance token (trim lender) = .ok bal →
        bal.val ≤ s.reserve.totalScaledLiquidity.val) :
    NoUnderflow (executeWithdraw deps s env info lender amount cf) := by
  have hamounts : ∀ bal max cash li, NoUnderflow (ownerWithdrawAmounts amount bal max cash li) := by
    intro bal max cash li
    cases amount <;> simp [ownerWithdrawAmounts]
  simp only [executeWithdraw, allErrors_bind, allErrors_ensure, allErrors_pure, hamounts,
    noUnderflow_assertOwner, noUnderflow_addrValidate,
    arithmetic_updateReserveIndexes, arithmetic_reserveTotals, noUnderflow_fromStd,
    arithmetic_scaledToUnderlyingLiquidity, noUnderflow_addCommitMessage,
    arithmetic_attachRates, notUnderflow_noFundsAccepted, notUnderflow_illegalArgument,
    ContractStateV1.repoTokenAddr, okOr_eq_ok, addrValidate_eq_ok, fromStd_eq_ok,
    updateReserveIndexes_eq_ok, implies_true, and_true, true_and]
  refine ⟨by simp [ledgerUnderflows], ?_⟩
  rintro token htoken - - - - _ ⟨-, rfl⟩ ⟨store, r⟩ ⟨hr, -⟩ totals - bal hbal - - max hmax w hw
  apply noUnderflow_deductScaledLiquidityAndSave
  dsimp only at hr hmax hw ⊢
  rw [hr.totalScaledLiquidity]
  have hburned : w.scaledToBurn.val ≤ bal.val :=
    ownerWithdraw_burned_le (scaledToUnderlying_eq hmax) hw
  exact hburned.trans (h token bal htoken hbal)

/-- A holder burns at most what was sent, and that is at most the scaled total. -/
theorem noUnderflow_executeWithdrawCw20 {sender : Addr} {received : Uint128}
    {amount : Option Uint128} {exact : Bool} {cf : Option Bool}
    (h : received.val ≤ s.reserve.totalScaledLiquidity.val) :
    NoUnderflow (executeWithdrawCw20 s env sender received amount exact cf) := by
  have hbound : NoUnderflow s.contract.repoTokenAddr := noUnderflow_repoTokenAddr _
  have hamounts : ∀ cash li, NoUnderflow (holderWithdrawAmounts received amount exact cash li) := by
    intro cash li
    unfold holderWithdrawAmounts
    split <;> simp
  have hrefund : ∀ res token used,
      NoUnderflow (addRefund res exact token sender received used) := by
    simp [addRefund]
  simp only [executeWithdrawCw20, allErrors_bind, allErrors_ensure, allErrors_pure, hbound,
    hamounts, hrefund, arithmetic_updateReserveIndexes, arithmetic_reserveTotals,
    noUnderflow_addCommitMessage, arithmetic_attachRates, notUnderflow_illegalArgument,
    updateReserveIndexes_eq_ok, implies_true, and_true, true_and]
  rintro - - token - - - ⟨store, r⟩ ⟨hr, -⟩ totals - w hw
  apply noUnderflow_deductScaledLiquidityAndSave
  dsimp only at hr hw ⊢
  rw [hr.totalScaledLiquidity]
  exact (holderWithdrawAmounts_spec hw).2.1.trans h

theorem noUnderflow_executeTransferCw20 {sender : Addr} {received : Uint128} {recipient : String}
    {amount : Option Uint128} {exact : Bool} :
    NoUnderflow (executeTransferCw20 deps s env sender received recipient amount exact) := by
  have hamounts : ∀ li, NoUnderflow (transferAmounts received amount exact li) := by
    intro li
    unfold transferAmounts
    split <;> simp
  have hrefund : ∀ res token used,
      NoUnderflow (addRefund res exact token sender received used) := by
    simp [addRefund]
  simp [executeTransferCw20, hamounts, hrefund]

theorem noUnderflow_receive {cw20Msg : Cw20ReceiveMsg}
    (h : s.contract.repoTokenCw20Address = some info.sender →
      cw20Msg.amount.val ≤ s.reserve.totalScaledLiquidity.val) :
    NoUnderflow (receive deps s env info cw20Msg) := by
  simp only [receive, allErrors_bind, allErrors_ensure, ContractStateV1.repoTokenAddr, okOr_eq_ok,
    ensure_eq_ok, notUnderflow_illegalArgument, implies_true, true_and]
  refine ⟨by simp [ledgerUnderflows], ?_⟩
  rintro token htoken - rfl
  split
  · simp
  · simp only [allErrors_bind, noUnderflow_addrValidate, true_and]
    intro sender _
    split
    · exact noUnderflow_executeWithdrawCw20 env (h htoken)
    · exact noUnderflow_executeWithdrawCw20 env (h htoken)
    · exact noUnderflow_executeTransferCw20 deps env
    · exact noUnderflow_executeTransferCw20 deps env

/-! ## All messages -/

/-- The repo token vouches for what a message may burn: a balance that it reports, and
the units that it hands over, are part of the scaled total. -/
structure TokenCovered (s : PoolStorage) (deps : Deps) (info : MessageInfo) (msg : ExecuteMsg) :
    Prop where
  balance : ∀ token account bal, s.contract.repoTokenCw20Address = some token →
    deps.scaledBalance token account = .ok bal → bal.val ≤ s.reserve.totalScaledLiquidity.val
  received : s.contract.repoTokenCw20Address = some info.sender →
    msg.received ≤ s.reserve.totalScaledLiquidity.val

/-- No message that the token covers can underflow a total. -/
theorem noUnderflow_dispatch {msg : ExecuteMsg} (hdebt : DebtLedger s) (hheld : CollateralLedger s)
    (hcovered : TokenCovered s deps info msg) : NoUnderflow (dispatch deps s env info msg) := by
  cases msg with
  | updateOwnership action => exact noUnderflow_updateOwnership deps env info action
  | lend => exact noUnderflow_lend deps env info
  | receive cw20Msg => exact noUnderflow_receive deps env info hcovered.received
  | borrow amount => exact noUnderflow_borrow deps env info amount
  | repay => exact noUnderflow_repay hdebt env info
  | addCollateral => exact noUnderflow_addCollateral deps env info
  | removeCollateral toRemove => exact noUnderflow_removeCollateral hheld deps env info toRemove
  | adjustDirectedCollateralSale adjustments expiresAt version =>
    exact noUnderflow_adjustDirectedCollateralSale env info adjustments expiresAt version
  | liquidate borrower seize => exact noUnderflow_liquidate hdebt hheld deps env info borrower seize
  | updateSupportedCollateral toUpdate toRemove =>
    exact noUnderflow_updateSupportedCollateral info toUpdate toRemove
  | withdrawReserve recipient => exact noUnderflow_withdrawReserve deps env info recipient
  | eliminateDeficit funding => exact noUnderflow_eliminateDeficit env info funding
  | socializeDeficit maxAmount => exact noUnderflow_socializeDeficit env info maxAmount
  | setOperationalState state => exact noUnderflow_setOperationalState info state
  | setLenderRequiredAttrs attrs =>
    simp [dispatch, setLenderRequiredAttrs, noUnderflow_checkRequiredAttrs]
  | setBorrowerRequiredAttrs attrs =>
    simp [dispatch, setBorrowerRequiredAttrs, noUnderflow_checkRequiredAttrs]
  | updateContractConfig params => exact noUnderflow_updateContractConfig deps info params
  | updateRateParams rateParams => exact noUnderflow_updateRateParams env info rateParams
  | setBorrowerRequireCommit address require =>
    simp [dispatch, setBorrowerRequireCommit, noUnderflow_checkCommitRule]
  | setLenderRequireCommitOnExit address require =>
    simp [dispatch, setLenderRequireCommitOnExit, noUnderflow_checkCommitRule]
  | withdraw lender amount cf =>
    exact noUnderflow_executeWithdraw deps env info fun token bal htoken hbal =>
      hcovered.balance token _ bal htoken hbal

end DemocratizedPrime
